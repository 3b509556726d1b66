/-!
# Places in a document

A mark counts characters from the start of the text, and lines and columns from zero. The written
form counts lines and columns from one and is left out at the very start of the text.
-/

namespace BrokerRelay.Yaml

/-- A place in a text, all three counts from zero. -/
structure Mark where
  index : Nat
  line : Nat
  column : Nat
deriving DecidableEq, Repr, Inhabited

namespace Mark

/-- The start of the text. -/
def start : Mark := ⟨0, 0, 0⟩

/-- One character further on the same line. -/
def next (m : Mark) : Mark := ⟨m.index + 1, m.line, m.column + 1⟩

/-- The start of the next line, after a line break of `width` characters. -/
def nextLine (m : Mark) (width : Nat) : Mark := ⟨m.index + width, m.line + 1, 0⟩

/-- The mark is not at the first character of the text. -/
def isLater (m : Mark) : Bool := m.line != 0 || m.column != 0

/-- The place as it is written in messages. -/
def text (m : Mark) : String :=
  if m.isLater then s!"line {m.line + 1} column {m.column + 1}" else s!"position {m.index}"

end Mark

/-- A text that is not well-formed YAML: what is wrong, where, and what was being read. -/
structure SyntaxFault where
  problem : String
  mark : Mark
  context : Option (String × Mark)
deriving DecidableEq, Repr

/-- The text of a syntax fault. -/
def SyntaxFault.message (f : SyntaxFault) : String :=
  let place := if f.mark.isLater then " at " ++ f.mark.text else ""
  let setting := match f.context with
    | none => ""
    | some (what, m) =>
      ", " ++ what ++
        (if m.isLater && (m.line != f.mark.line || m.column != f.mark.column) then " at " ++ m.text
         else "")
  f.problem ++ place ++ setting

end BrokerRelay.Yaml
