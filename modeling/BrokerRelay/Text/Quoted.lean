import BrokerRelay.Text.Printable
/-!
# Quoted text

The form in which a text stands inside a message or a displayed value: between double quotes, with
the quote, the backslash and the common controls escaped by a backslash, and every character that is
invisible or attaches to its neighbour written as `\u` with its code point between braces.
-/

namespace BrokerRelay.Text

/-- The escape of a code point by number. -/
def codePointEscape (c : Char) : List Char :=
  "\\u\x7b".toList ++ Nat.toDigits 16 c.toNat ++ ['\x7d']

/-- One character inside double quotes. -/
def quotedChar (c : Char) : List Char :=
  if c = '\x00' then ['\\', '0']
  else if c = '\t' then ['\\', 't']
  else if c = '\r' then ['\\', 'r']
  else if c = '\n' then ['\\', 'n']
  else if c = '"' then ['\\', '"']
  else if c = '\\' then ['\\', '\\']
  else if isExtending c then codePointEscape c
  else if isPrintable c then [c]
  else codePointEscape c

/-- A text between double quotes. -/
def quoted (s : String) : String :=
  String.ofList ('"' :: s.toList.flatMap quotedChar ++ ['"'])

/-- A file path between double quotes; a single quote is escaped as well. -/
def quotedPath (s : String) : String :=
  String.ofList
    ('"' :: (s.toList.flatMap fun c => if c = '\'' then ['\\', '\''] else quotedChar c) ++ ['"'])

/-- A list between brackets, from the texts of its members. -/
def bracketed (items : List String) : String := "[" ++ ", ".intercalate items ++ "]"

/-- A list of quoted texts between brackets. -/
def quotedList (items : List String) : String := bracketed (items.map quoted)

/-- An optional value: `None`, or `Some` around the text of the value. -/
def optional : Option String → String
  | none => "None"
  | some s => "Some(" ++ s ++ ")"

/-- A truth value. -/
def truth (b : Bool) : String := if b then "true" else "false"

/-- A record with its fields in order; `complete` is false when fields are left out. -/
def record (name : String) (fields : List (String × String)) (complete : Bool) : String :=
  let shown := fields.map fun (key, value) => key ++ ": " ++ value
  let shown := if complete then shown else shown ++ [".."]
  name ++ " \x7b " ++ ", ".intercalate shown ++ " \x7d"

end BrokerRelay.Text
