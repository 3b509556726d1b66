import BrokerRelay.Base64
import BrokerRelay.Text.Blank
import BrokerRelay.Text.Quoted
import BrokerRelay.Text.Split
/-!
# PEM blocks

A block holds bytes as base64 between a begin line and an end line with the same label, and may start
with header lines that an empty line ends. `Block.parse` reads the first block of a text and looks at
nothing after it; `Block.encode` writes a block without headers, in lines of 64 symbols.
-/

namespace BrokerRelay.Pem

/-- A header line: its name and its value. -/
structure Header where
  name : List Char
  value : List Char
deriving DecidableEq, Repr

/-- A block. -/
structure Block where
  label : List Char
  headers : List Header
  contents : Bytes
deriving DecidableEq, Repr

/-- Why a text has no readable first block. -/
inductive BlockFault where
  | noFrame
  | notUtf8 (fault : Bytes.Utf8Fault)
  | missingBegin
  | missingEnd
  | labelMismatch (start stop : List Char)
  | invalidData (fault : Base64.Fault)
  | invalidHeader (line : List Char)
deriving DecidableEq, Repr

/-- The text of a fault. -/
def BlockFault.message : BlockFault → String
  | .noFrame => "malformedframing"
  | .notUtf8 fault => "invalid utf-8 value: " ++ fault.message
  | .missingBegin => "missing BEGIN tag"
  | .missingEnd => "missing END tag"
  | .labelMismatch start stop =>
    "mismatching BEGIN (\"" ++ String.ofList start ++ "\") and END (\"" ++ String.ofList stop
      ++ "\") tags"
  | .invalidData fault => "invalid data: " ++ fault.message
  | .invalidHeader line => "invalid header: " ++ String.ofList line

/-! ## The frame -/

/-- What starts a begin line. -/
def beginMark : Bytes := Bytes.encodeUtf8 "-----BEGIN "
/-- What starts an end line. -/
def endMark : Bytes := Bytes.encodeUtf8 "-----END "
/-- What ends both lines. -/
def dashes : Bytes := Bytes.encodeUtf8 "-----"

/-- Looks for `marker` byte by byte: `awaited` is the part of it that is still to come, and a byte
that does not fit starts the search anew after it. `read` holds the bytes before, last one first. -/
def seek (marker : Bytes) : Bytes → Bytes → Bytes → Option (Bytes × Bytes)
  | [], read, rest => some ((read.drop marker.length).reverse, rest)
  | _ :: _, _, [] => none
  | w :: awaited, read, b :: rest =>
    if b = w then seek marker awaited (b :: read) rest else seek marker marker (b :: read) rest

/-- What stands before and after the first `marker`. -/
def cut? (marker text : Bytes) : Option (Bytes × Bytes) := seek marker marker [] text

/-- A blank between the parts of a frame. -/
def isFrameBlank (b : UInt8) : Bool := b == 32 || b == 9 || b == 10 || b == 13

/-- The parts of a block as they stand in the text. -/
structure Frame where
  start : Bytes
  headers : Bytes
  data : Bytes
  stop : Bytes

/-- Parts headers from data at the first empty line. -/
def splitBody (body : Bytes) : Bytes × Bytes :=
  match cut? [10, 10] body with
  | some parts => parts
  | none => (cut? [13, 10, 13, 10] body).getD ([], body)

/-- The parts of the first block of a text. -/
def Frame.first? (text : Bytes) : Option Frame := do
  let (_, text) ← cut? beginMark text
  let (start, text) ← cut? dashes text
  let (body, text) ← cut? endMark (text.dropWhile isFrameBlank)
  let (stop, _) ← cut? dashes text
  let (headers, data) := splitBody body
  return ⟨start, headers, data, stop⟩

/-! ## Blocks -/

/-- The characters of a part. -/
def chars (bs : Bytes) : Except BlockFault (List Char) := (Bytes.decodeChars bs).mapError .notUtf8

/-- Reads a header line. -/
def Header.parse (line : List Char) : Except BlockFault Header :=
  match Text.cutFirst? ':' line with
  | some (name, value) => .ok ⟨Text.trimChars name, Text.trimChars value⟩
  | none => .error (.invalidHeader line)

/-- Reads a block from its parts. -/
def Block.ofFrame (f : Frame) : Except BlockFault Block := do
  let start ← chars f.start
  if start = [] then throw .missingBegin
  let stop ← chars f.stop
  if stop = [] then throw .missingEnd
  if start ≠ stop then throw (.labelMismatch start stop)
  let data ← chars f.data
  let contents ←
    (Base64.decode (Bytes.encodeChars (data.filter (!Text.isBlank ·)))).mapError .invalidData
  let headers ← (Text.lines (← chars f.headers)).mapM Header.parse
  return ⟨start, headers, contents⟩

/-- Reads the first block of a text. -/
def Block.parse (text : Bytes) : Except BlockFault Block :=
  match Frame.first? text with
  | none => .error .noFrame
  | some f => Block.ofFrame f

/-- The value of a header; the last one of a name counts. -/
def Block.header? (b : Block) (name : List Char) : Option (List Char) :=
  (b.headers.reverse.find? (·.name == name)).map Header.value

/-- Cuts symbols into lines of 64, each with its ending. -/
def wrapped (symbols : Bytes) : Bytes :=
  if h : symbols = [] then []
  else symbols.take 64 ++ [13, 10] ++ wrapped (symbols.drop 64)
termination_by symbols.length
decreasing_by
  have : 0 < symbols.length := List.length_pos_iff.mpr h
  simp only [List.length_drop]
  omega

/-- Writes a block without its headers. -/
def Block.encode (b : Block) : Bytes :=
  let label := Bytes.encodeChars b.label
  beginMark ++ label ++ dashes ++ [13, 10] ++ wrapped (Base64.encode b.contents)
    ++ endMark ++ label ++ dashes ++ [13, 10]

end BrokerRelay.Pem
