import BrokerRelay.Bytes
/-!
# Base64

Three bytes are written as four symbols of six bits, the last group padded with `=`. Reading is
strict: padding must be complete, nothing may follow it, and the bits that a last symbol has too many
must be zero. `encode` writes only what `decode` accepts.
-/

namespace BrokerRelay.Base64

/-- The symbol of a value below 64. -/
def symbol (n : Nat) : UInt8 :=
  if n < 26 then UInt8.ofNat (n + 65)
  else if n < 52 then UInt8.ofNat (n - 26 + 97)
  else if n < 62 then UInt8.ofNat (n - 52 + 48)
  else if n == 62 then 43
  else 47

/-- The value of a symbol. -/
def value? (b : UInt8) : Option Nat :=
  let n := b.toNat
  if 65 ≤ n ∧ n ≤ 90 then some (n - 65)
  else if 97 ≤ n ∧ n ≤ 122 then some (n - 97 + 26)
  else if 48 ≤ n ∧ n ≤ 57 then some (n - 48 + 52)
  else if n = 43 then some 62
  else if n = 47 then some 63
  else none

/-- The padding symbol. -/
def pad : UInt8 := 61

/-! ## Writing -/

/-- The symbols of a byte string. -/
def encode : Bytes → Bytes
  | [] => []
  | [a] => [symbol (a.toNat / 4), symbol (a.toNat % 4 * 16), pad, pad]
  | [a, b] =>
    [symbol (a.toNat / 4), symbol (a.toNat % 4 * 16 + b.toNat / 16), symbol (b.toNat % 16 * 4), pad]
  | a :: b :: c :: rest =>
    symbol (a.toNat / 4) :: symbol (a.toNat % 4 * 16 + b.toNat / 16) ::
      symbol (b.toNat % 16 * 4 + c.toNat / 64) :: symbol (c.toNat % 64) :: encode rest

/-! ## Reading -/

/-- Why a text is not base64, with the index that shows it. -/
inductive Fault where
  | invalidByte (index : Nat) (byte : UInt8)
  | invalidLength (length : Nat)
  | invalidLastSymbol (index : Nat) (byte : UInt8)
  | invalidPadding
deriving DecidableEq, Repr

/-- The text of a fault. -/
def Fault.message : Fault → String
  | .invalidByte i b => s!"Invalid symbol {b.toNat}, offset {i}."
  | .invalidLength n => s!"Invalid input length: {n}"
  | .invalidLastSymbol i b => s!"Invalid last symbol {b.toNat}, offset {i}."
  | .invalidPadding => "Invalid padding"

/-- The value of a symbol at an index. -/
def valueAt (index : Nat) (b : UInt8) : Except Fault Nat :=
  match value? b with
  | some n => .ok n
  | none => .error (.invalidByte index b)

/-- What has been read of the last group: values, the last symbol, and how many paddings follow
from which place on. -/
structure LastGroup where
  values : List Nat
  lastSymbol : UInt8
  padding : Nat
  firstPadding : Nat

/-- Reads the symbols of the last group from place `i` of the group on, which starts at `offset`. -/
def scanLast (offset : Nat) : Nat → LastGroup → Bytes → Except Fault LastGroup
  | _, g, [] => .ok g
  | i, g, b :: bs =>
    if b == pad then
      if i < 2 then .error (.invalidByte (offset + i) b)
      else
        scanLast offset (i + 1)
          { g with padding := g.padding + 1,
                   firstPadding := if g.padding == 0 then i else g.firstPadding } bs
    else if 0 < g.padding then .error (.invalidByte (offset + g.firstPadding) pad)
    else
      match value? b with
      | none => .error (.invalidByte (offset + i) b)
      | some n => scanLast offset (i + 1) { g with values := g.values ++ [n], lastSymbol := b } bs

/-- Reads the last group, of at most four symbols, which starts at `offset`. -/
def decodeLast (offset : Nat) (bs : Bytes) : Except Fault Bytes := do
  let g ← scanLast offset 0 ⟨[], 0, 0, 0⟩ bs
  let count := g.values.length
  if bs.isEmpty then return []
  if count < 2 then throw (.invalidLength (offset + count))
  if (g.padding + count) % 4 != 0 then throw .invalidPadding
  let size := count * 6 / 8
  let spare := Nat.pow 2 (count * 6 - size * 8)
  let n := g.values.foldl (fun n v => n * 64 + v) 0
  if n % spare != 0 then throw (.invalidLastSymbol (offset + count - 1) g.lastSymbol)
  return Bytes.ofNatBE size (n / spare)

/-- Reads groups of four symbols up to the last one. -/
def decodeGroups (offset : Nat) : Bytes → Except Fault Bytes
  | a :: b :: c :: d :: e :: rest => do
    let va ← valueAt offset a
    let vb ← valueAt (offset + 1) b
    let vc ← valueAt (offset + 2) c
    let vd ← valueAt (offset + 3) d
    let tail ← decodeGroups (offset + 4) (e :: rest)
    return UInt8.ofNat (va * 4 + vb / 16) :: UInt8.ofNat (vb % 16 * 16 + vc / 4) ::
      UInt8.ofNat (vc % 4 * 64 + vd) :: tail
  | last => decodeLast offset last

/-- Reads a byte string. A single symbol too many is reported first when it is none at all. -/
def decode (bs : Bytes) : Except Fault Bytes :=
  match bs.getLast? with
  | some b =>
    if bs.length % 4 == 1 && b != pad && (value? b).isNone then
      .error (.invalidByte (bs.length - 1) b)
    else decodeGroups 0 bs
  | none => .ok []

end BrokerRelay.Base64
