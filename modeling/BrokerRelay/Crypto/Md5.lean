import BrokerRelay.Bytes
/-!
# MD5

The digest of a byte string: it is padded to whole blocks of 64 bytes with its length in bits, and
each block is mixed into a state of four words in 64 rounds.
-/

namespace BrokerRelay.Crypto.Md5

/-- The constants that the rounds add. -/
def constants : Array UInt32 := #[
  0xd76aa478, 0xe8c7b756, 0x242070db, 0xc1bdceee,
  0xf57c0faf, 0x4787c62a, 0xa8304613, 0xfd469501,
  0x698098d8, 0x8b44f7af, 0xffff5bb1, 0x895cd7be,
  0x6b901122, 0xfd987193, 0xa679438e, 0x49b40821,
  0xf61e2562, 0xc040b340, 0x265e5a51, 0xe9b6c7aa,
  0xd62f105d, 0x02441453, 0xd8a1e681, 0xe7d3fbc8,
  0x21e1cde6, 0xc33707d6, 0xf4d50d87, 0x455a14ed,
  0xa9e3e905, 0xfcefa3f8, 0x676f02d9, 0x8d2a4c8a,
  0xfffa3942, 0x8771f681, 0x6d9d6122, 0xfde5380c,
  0xa4beea44, 0x4bdecfa9, 0xf6bb4b60, 0xbebfbc70,
  0x289b7ec6, 0xeaa127fa, 0xd4ef3085, 0x04881d05,
  0xd9d4d039, 0xe6db99e5, 0x1fa27cf8, 0xc4ac5665,
  0xf4292244, 0x432aff97, 0xab9423a7, 0xfc93a039,
  0x655b59c3, 0x8f0ccc92, 0xffeff47d, 0x85845dd1,
  0x6fa87e4f, 0xfe2ce6e0, 0xa3014314, 0x4e0811a1,
  0xf7537e82, 0xbd3af235, 0x2ad7d2bb, 0xeb86d391]

/-- The rotations of the rounds: four in each group of sixteen, used in turn. -/
def rotations : Array UInt32 := #[7, 12, 17, 22, 5, 9, 14, 20, 4, 11, 16, 23, 6, 10, 15, 21]

/-- The four words of the state. -/
structure State where
  a : UInt32
  b : UInt32
  c : UInt32
  d : UInt32
deriving DecidableEq, Repr

/-- The state before the first block. -/
def State.initial : State := ⟨0x67452301, 0xefcdab89, 0x98badcfe, 0x10325476⟩

/-- Rotates a word to the left by fewer than 32 places. -/
def rotate (x n : UInt32) : UInt32 := (x <<< n) ||| (x >>> (32 - n))

/-- What round `i` mixes from the state, and the index of the word of the block that it adds. -/
def mixture (i : Nat) (s : State) : UInt32 × Nat :=
  if i < 16 then ((s.b &&& s.c) ||| (~~~s.b &&& s.d), i)
  else if i < 32 then ((s.d &&& s.b) ||| (~~~s.d &&& s.c), (5 * i + 1) % 16)
  else if i < 48 then (s.b ^^^ s.c ^^^ s.d, (3 * i + 5) % 16)
  else (s.c ^^^ (s.b ||| ~~~s.d), 7 * i % 16)

/-- Round `i` over the words of a block. -/
def round (words : Array UInt32) (s : State) (i : Nat) : State :=
  let (f, g) := mixture i s
  let x := s.a + f + constants.getD i 0 + words.getD g 0
  ⟨s.d, s.b + rotate x (rotations.getD (i / 16 * 4 + i % 4) 0), s.b, s.c⟩

/-- Mixes a block into the state. -/
def compress (s : State) (words : Array UInt32) : State :=
  let t := (List.range 64).foldl (round words) s
  ⟨s.a + t.a, s.b + t.b, s.c + t.c, s.d + t.d⟩

/-- The little-endian word of four bytes. -/
def word (bs : Bytes) : UInt32 := UInt32.ofNat (Bytes.toNatLE bs)

/-- A message padded to whole blocks. -/
def padded (message : Bytes) : Bytes :=
  let zeros := (119 - message.length % 64) % 64
  message ++ 0x80 :: List.replicate zeros 0 ++ Bytes.ofNatLE 8 (message.length * 8)

/-- The words of a block. -/
def blockWords (block : Bytes) : Array UInt32 := ((Bytes.pieces 4 16 block).map word).toArray

/-- The digest of a message: sixteen bytes. -/
def digest (message : Bytes) : Bytes :=
  let text := padded message
  let s := (Bytes.pieces 64 (text.length / 64) text).foldl (fun s block => compress s (blockWords block))
    State.initial
  [s.a, s.b, s.c, s.d].flatMap fun w => Bytes.ofNatLE 4 w.toNat

end BrokerRelay.Crypto.Md5
