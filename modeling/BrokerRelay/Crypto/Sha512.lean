import BrokerRelay.Bytes
/-!
# SHA-512

The digest of a byte string: it is padded to whole blocks of 128 bytes with its length in bits, and
each block is stretched to 80 words that are mixed one by one into a state of eight words. The
constants are the first fractional bits of roots of primes, computed here as such.
-/

namespace BrokerRelay.Crypto.Sha512

/-! ## Constants -/

/-- The largest `r` with `r ^ k ≤ n` that agrees with `found` above its lowest `bits` bits. -/
def root (k n : Nat) : Nat → Nat → Nat
  | 0, found => found
  | bits + 1, found =>
    let next := found + Nat.pow 2 bits
    root k n bits (if Nat.pow next k ≤ n then next else found)

/-- A number above one that no smaller one above one divides. -/
def isPrime (n : Nat) : Bool := 2 ≤ n && (List.range n).all fun d => d < 2 || n % d != 0

/-- The first 80 primes. -/
def primes : List Nat := (List.range 410).filter isPrime

/-- The first 64 bits after the point of the `k`-th root of `n`. -/
def fraction (k n : Nat) : UInt64 := UInt64.ofNat (root k (n * Nat.pow 2 (64 * k)) 70 0)

/-- The constants that the rounds add: from cube roots. -/
def constants : List UInt64 := primes.map (fraction 3)

/-! ## Rounds -/

/-- The eight words of the state. -/
structure State where
  a : UInt64
  b : UInt64
  c : UInt64
  d : UInt64
  e : UInt64
  f : UInt64
  g : UInt64
  h : UInt64
deriving DecidableEq, Repr

/-- The state before the first block: from square roots. -/
def State.initial : State :=
  ⟨fraction 2 2, fraction 2 3, fraction 2 5, fraction 2 7, fraction 2 11, fraction 2 13,
    fraction 2 17, fraction 2 19⟩

/-- Rotates a word to the right by fewer than 64 places. -/
def rotate (x n : UInt64) : UInt64 := (x >>> n) ||| (x <<< (64 - n))

/-- The sum of two states, word by word. -/
def State.add (s t : State) : State :=
  ⟨s.a + t.a, s.b + t.b, s.c + t.c, s.d + t.d, s.e + t.e, s.f + t.f, s.g + t.g, s.h + t.h⟩

/-- One round, with the sum of a constant and a word of the schedule. -/
def round (s : State) (addend : UInt64) : State :=
  let s1 := rotate s.e 14 ^^^ rotate s.e 18 ^^^ rotate s.e 41
  let choice := (s.e &&& s.f) ^^^ (~~~s.e &&& s.g)
  let t1 := s.h + s1 + choice + addend
  let s0 := rotate s.a 28 ^^^ rotate s.a 34 ^^^ rotate s.a 39
  let majority := (s.a &&& s.b) ^^^ (s.a &&& s.c) ^^^ (s.b &&& s.c)
  ⟨t1 + s0 + majority, s.a, s.b, s.c, s.d + t1, s.e, s.f, s.g⟩

/-- The word that follows sixteen words of the schedule. -/
def nextWord (window : List UInt64) : UInt64 :=
  let w := fun i => window.getD i 0
  let s0 := rotate (w 1) 1 ^^^ rotate (w 1) 8 ^^^ (w 1 >>> 7)
  let s1 := rotate (w 14) 19 ^^^ rotate (w 14) 61 ^^^ (w 14 >>> 6)
  w 0 + s0 + w 9 + s1

/-- Goes on with a schedule: `window` holds the sixteen words that come next. -/
def schedule : Nat → List UInt64 → List UInt64
  | 0, _ => []
  | count + 1, window =>
    window.getD 0 0 :: schedule count (window.drop 1 ++ [nextWord window])

/-- Mixes a block into the state. -/
def compress (s : State) (block : Bytes) : State :=
  let words := (Bytes.pieces 8 16 block).map fun w => UInt64.ofNat (Bytes.toNatBE w)
  s.add ((List.zipWith (· + ·) constants (schedule 80 words)).foldl round s)

/-- A message padded to whole blocks. -/
def padded (message : Bytes) : Bytes :=
  let zeros := (239 - message.length % 128) % 128
  message ++ 0x80 :: List.replicate zeros 0 ++ Bytes.ofNatBE 16 (message.length * 8)

/-- The digest of a message: 64 bytes. -/
def digest (message : Bytes) : Bytes :=
  let text := padded message
  let s := (Bytes.pieces 128 (text.length / 128) text).foldl compress State.initial
  [s.a, s.b, s.c, s.d, s.e, s.f, s.g, s.h].flatMap fun w => Bytes.ofNatBE 8 w.toNat

end BrokerRelay.Crypto.Sha512
