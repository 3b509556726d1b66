/-!
# Blank characters

The white space of Unicode, and removing it from the ends of a text.
-/

namespace BrokerRelay.Text

/-- White space: the ASCII blanks and line separators, NEL, the no-break space, and the spaces of
the general punctuation and ideographic blocks. -/
def isBlank (c : Char) : Bool :=
  let n := c.toNat
  (0x9 ≤ n && n ≤ 0xd) || n == 0x20 || n == 0x85 || n == 0xa0 || n == 0x1680
    || (0x2000 ≤ n && n ≤ 0x200a) || n == 0x2028 || n == 0x2029 || n == 0x202f || n == 0x205f
    || n == 0x3000

/-- A list of characters without the blanks at its start. -/
def dropBlank (cs : List Char) : List Char := cs.dropWhile isBlank

/-- A list of characters without the blanks at either end. -/
def trimChars (cs : List Char) : List Char := (dropBlank (dropBlank cs).reverse).reverse

/-- A text without the blanks at either end. -/
def trim (s : String) : String := String.ofList (trimChars s.toList)

end BrokerRelay.Text
