import BrokerRelay.Bytes
/-!
# DER

An element is a tag, a length in its shortest form and that many bytes. A reader takes elements from
the front of a byte string and fails in the way its caller chooses; `whole` demands that nothing is
left over. `write` writes an element.
-/

namespace BrokerRelay.Der

/-- A tag. -/
abbrev Tag := UInt8

namespace Tag

/-- A truth value. -/
def boolean : Tag := 0x01
/-- A whole number. -/
def integer : Tag := 0x02
/-- A string of bits. -/
def bitString : Tag := 0x03
/-- A string of bytes. -/
def octetString : Tag := 0x04
/-- A registered identifier. -/
def identifier : Tag := 0x06
/-- A sequence of elements. -/
def sequence : Tag := 0x30
/-- The element numbered `n` by its context, which holds elements. -/
def constructed (n : UInt8) : Tag := 0xa0 + n
/-- The element numbered `n` by its context, which holds bytes. -/
def context (n : UInt8) : Tag := 0x80 + n

end Tag

/-! ## Elements -/

/-- The length that a length field states, and what follows the field. Lengths of more than two
bytes are not read, and a length that a shorter field could state is refused. -/
def length? : Bytes → Option (Nat × Bytes)
  | 0x81 :: a :: rest => if a < 0x80 then none else some (a.toNat, rest)
  | 0x82 :: a :: b :: rest =>
    let n := a.toNat * 256 + b.toNat
    if n < 0x100 then none else some (n, rest)
  | a :: rest => if a < 0x80 then some (a.toNat, rest) else none
  | [] => none

/-- The first element: its tag, its contents and what follows it. Tags of several bytes and contents
longer than `limit` are not read. -/
def element? (limit : Nat) : Bytes → Option (Tag × Bytes × Bytes)
  | [] => none
  | tag :: input =>
    if tag &&& 0x1f == 0x1f then none
    else
      match length? input with
      | none => none
      | some (n, rest) =>
        if limit < n ∨ rest.length < n then none else some (tag, rest.take n, rest.drop n)

/-- The length field of a length below 65536. -/
def lengthField (n : Nat) : Bytes :=
  if n < 0x80 then [UInt8.ofNat n]
  else if n < 0x100 then [0x81, UInt8.ofNat n]
  else [0x82, UInt8.ofNat (n / 256), UInt8.ofNat (n % 256)]

/-- Writes an element. -/
def write (tag : Tag) (contents : Bytes) : Bytes :=
  tag :: lengthField contents.length ++ contents

/-- Writes a string of bits that fills whole bytes. -/
def writeBits (bytes : Bytes) : Bytes := write Tag.bitString (0 :: bytes)

/-- Writes a whole number from its big-endian digits. -/
def writeNatural (digits : Bytes) : Bytes :=
  match digits with
  | d :: _ => write Tag.integer (if d < 0x80 then digits else 0 :: digits)
  | [] => write Tag.integer [0]

/-! ## Readers -/

/-- A reader: takes elements from the front of its input, or fails. -/
abbrev Reader (ε : Type) := StateT Bytes (Except ε)

namespace Reader

variable {ε α : Type}

/-- Nothing is left. -/
def atEnd : Reader ε Bool := return (← get).isEmpty

/-- The next element has this tag. -/
def next? (tag : Tag) : Reader ε Bool := return (← get).head? == some tag

/-- The contents of the next element, which must have this tag. -/
def take (limit : Nat) (fault : ε) (tag : Tag) : Reader ε Bytes := do
  match element? limit (← get) with
  | some (found, contents, rest) =>
    if found = tag then
      set rest
      return contents
    else throw fault
  | none => throw fault

/-- Reads a whole byte string. -/
def whole (r : Reader ε α) (fault : ε) (input : Bytes) : Except ε α := do
  let (value, rest) ← r.run input
  if rest.isEmpty then return value else throw fault

/-- Reads the contents of the next element, which must have this tag, as a whole. -/
def inside (limit : Nat) (fault : ε) (tag : Tag) (r : Reader ε α) : Reader ε α := do
  r.whole fault (← take limit fault tag)

/-- The bytes of a string of bits that fills whole bytes. -/
def bits (limit : Nat) (fault : ε) (tag : Tag) : Reader ε Bytes := do
  match ← take limit fault tag with
  | 0 :: bytes => return bytes
  | _ => throw fault

/-- The big-endian digits of a whole number that is not negative; zero has the digit zero. -/
def natural (limit : Nat) (fault : ε) : Reader ε Bytes := do
  match ← take limit fault Tag.integer with
  | [] => throw fault
  | [0] => return [0]
  | 0 :: b :: bytes => if b < 0x80 then throw fault else return b :: bytes
  | b :: bytes => if b < 0x80 then return b :: bytes else throw fault

/-- A whole number of one byte. -/
def small (limit : Nat) (fault : ε) : Reader ε Nat := do
  match ← natural limit fault with
  | [b] => return b.toNat
  | _ => throw fault

end Reader

end BrokerRelay.Der
