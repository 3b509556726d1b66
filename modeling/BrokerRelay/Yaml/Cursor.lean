import BrokerRelay.Yaml.Mark
/-!
# Reading position

A cursor is the unread rest of a text with the mark of its first character. Every operation drops
characters from the front and moves the mark accordingly. Line breaks are LF, CR, CR LF, NEL and the
two Unicode separators; the first four are read as LF, the separators as themselves.
-/

namespace BrokerRelay.Yaml

/-- LF, CR, NEL, and the line and paragraph separators. -/
def isBreak (c : Char) : Bool :=
  c == '\n' || c == '\r' || c == '\u0085' || c == '\u2028' || c == '\u2029'

/-- A space or a tab. -/
def isSpace (c : Char) : Bool := c == ' ' || c == '\t'

/-- A space, a tab or a line break. -/
def isSpaceOrBreak (c : Char) : Bool := isSpace c || isBreak c

/-- A letter, a digit, `_` or `-`. -/
def isWordChar (c : Char) : Bool := c.isAlphanum || c == '_' || c == '-'

/-- The unread text and its place. -/
structure Cursor where
  rest : List Char
  mark : Mark

namespace Cursor

/-- The character `n` places ahead. -/
def peek? (c : Cursor) (n : Nat) : Option Char := c.rest[n]?

/-- The character `n` places ahead is `ch`. -/
def at_ (c : Cursor) (n : Nat) (ch : Char) : Bool := c.peek? n == some ch

/-- The text has ended `n` places ahead, or the character there satisfies `p`. -/
def endOr (c : Cursor) (n : Nat) (p : Char → Bool) : Bool :=
  match c.peek? n with
  | none => true
  | some ch => p ch

/-- The character at the cursor satisfies `p`. -/
def here (c : Cursor) (p : Char → Bool) : Bool :=
  match c.rest with
  | [] => false
  | ch :: _ => p ch

/-- The text has ended. -/
def isDone (c : Cursor) : Bool := c.rest.isEmpty

/-- Drops one character that is not a line break. -/
def skip (c : Cursor) : Cursor :=
  match c.rest with
  | [] => c
  | _ :: cs => ⟨cs, c.mark.next⟩

/-- Drops `n` characters that are not line breaks. -/
def skipN : Nat → Cursor → Cursor
  | 0, c => c
  | n + 1, c => skipN n c.skip

/-- Drops one line break. -/
def skipLine (c : Cursor) : Cursor :=
  match c.rest with
  | '\r' :: '\n' :: cs => ⟨cs, c.mark.nextLine 2⟩
  | ch :: cs => if isBreak ch then ⟨cs, c.mark.nextLine 1⟩ else c
  | [] => c

/-- The characters that a line break at the cursor stands for. -/
def lineBreak (c : Cursor) : List Char :=
  match c.rest with
  | ch :: _ =>
    if ch == '\u2028' || ch == '\u2029' then [ch] else if isBreak ch then ['\n'] else []
  | [] => []

/-- Splits off the longest run of characters that satisfy `p`, none of them a line break. -/
def span (p : Char → Bool) (c : Cursor) : List Char × Cursor :=
  let taken := c.rest.takeWhile p
  let n := taken.length
  (taken, ⟨c.rest.drop n, ⟨c.mark.index + n, c.mark.line, c.mark.column + n⟩⟩)

/-- Drops the longest run of characters that satisfy `p`, none of them a line break. -/
def skipWhile (p : Char → Bool) (c : Cursor) : Cursor := (c.span p).2

/-- Drops a comment, if one starts here, up to the end of the line. -/
def skipComment (c : Cursor) : Cursor :=
  if c.at_ 0 '#' then c.skipWhile (!isBreak ·) else c

/-- A document marker of three equal characters starts this line. -/
def atMarker (c : Cursor) (ch : Char) : Bool :=
  c.mark.column == 0 && c.at_ 0 ch && c.at_ 1 ch && c.at_ 2 ch && c.endOr 3 isSpaceOrBreak

end Cursor

end BrokerRelay.Yaml
