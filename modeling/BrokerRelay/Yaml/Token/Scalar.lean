import BrokerRelay.Yaml.Cursor
import BrokerRelay.Yaml.Token
/-!
# Scalar tokens

Reading plain, quoted and block scalars at a cursor. Inside plain and quoted scalars a single line
break is folded to a space and further ones are kept; trailing blanks of a line are dropped. Block
scalars keep their line breaks (literal) or fold them between lines that start with no blank
(folded).

Each reader recurses on a count of steps that starts above the number of unread characters; every
step reads at least one.
-/

namespace BrokerRelay.Yaml

/-- White space met inside a flow or plain scalar, not yet part of it: blanks of the current line,
or the first line break and the breaks after it. -/
structure Gap where
  blanks : List Char
  first : List Char
  others : List Char
  broken : Bool

/-- No white space. -/
def Gap.none : Gap := ⟨[], [], [], false⟩

/-- The characters that the gap contributes between two parts of a scalar: folded when a line break
was met. -/
def Gap.joined (g : Gap) : List Char :=
  if g.broken then
    if g.first == ['\n'] then (if g.others.isEmpty then [' '] else g.others)
    else g.first ++ g.others
  else g.blanks

/-- Reads blanks and line breaks. Blanks after a line break are indentation and are dropped; there a
tab left of column `indent` is refused (`noTabsBefore`). -/
def readGap (noTabsBefore : Option Int) :
    Nat → Gap → Cursor → Except SyntaxFault (Gap × Cursor)
  | 0, g, c => .ok (g, c)
  | fuel + 1, g, c =>
    match c.rest with
    | [] => .ok (g, c)
    | ch :: _ =>
      if isSpace ch then
        match noTabsBefore with
        | some indent =>
          if g.broken && (c.mark.column : Int) < indent && ch == '\t' then
            .error ⟨"found a tab character that violates indentation", c.mark,
              some ("while scanning a plain scalar", c.mark)⟩
          else if g.broken then readGap noTabsBefore fuel g c.skip
          else readGap noTabsBefore fuel { g with blanks := g.blanks ++ [ch] } c.skip
        | none =>
          if g.broken then readGap noTabsBefore fuel g c.skip
          else readGap noTabsBefore fuel { g with blanks := g.blanks ++ [ch] } c.skip
      else if isBreak ch then
        if g.broken then
          readGap noTabsBefore fuel { g with others := g.others ++ c.lineBreak } c.skipLine
        else
          readGap noTabsBefore fuel ⟨[], c.lineBreak, [], true⟩ c.skipLine
      else .ok (g, c)

/-! ## Plain scalars -/

/-- A character that ends a plain scalar in a flow collection. -/
def isFlowIndicator (c : Char) : Bool :=
  c == ',' || c == '[' || c == ']' || c == '\x7b' || c == '\x7d'

/-- Reads the characters of a plain scalar up to a blank, a break or an indicator that ends it.
`true`: an indicator was met. -/
def plainWord (flow : Bool) (start : Mark) :
    Nat → List Char → Cursor → Except SyntaxFault (List Char × Cursor × Bool)
  | 0, acc, c => .ok (acc.reverse, c, false)
  | fuel + 1, acc, c =>
    match c.rest with
    | [] => .ok (acc.reverse, c, false)
    | ch :: _ =>
      if isSpaceOrBreak ch then .ok (acc.reverse, c, false)
      else if flow && ch == ':' &&
          (match c.peek? 1 with
           | some d => isFlowIndicator d || d == '?'
           | none => false) then
        .error ⟨"found unexpected ':'", c.mark, some ("while scanning a plain scalar", start)⟩
      else if (ch == ':' && c.endOr 1 isSpaceOrBreak) || (flow && isFlowIndicator ch) then
        .ok (acc.reverse, c, true)
      else plainWord flow start fuel (ch :: acc) c.skip

/-- A plain scalar that has been read: its text, the end of its last word, and whether a line break
followed it. -/
structure PlainRead where
  text : List Char
  stop : Mark
  broken : Bool
  cursor : Cursor

/-- Reads words and the gaps between them until the scalar ends. -/
def plainWords (flow : Bool) (indent : Int) (start : Mark) :
    Nat → List Char → Mark → Gap → Cursor → Except SyntaxFault PlainRead
  | 0, text, stop, gap, c => .ok ⟨text, stop, gap.broken, c⟩
  | fuel + 1, text, stop, gap, c => do
    if c.atMarker '-' || c.atMarker '.' || c.at_ 0 '#' then
      return ⟨text, stop, gap.broken, c⟩
    let (word, c', ended) ← plainWord flow start (c.rest.length + 1) [] c
    let (text, stop, gap) :=
      if word.isEmpty then (text, stop, gap) else (text ++ gap.joined ++ word, c'.mark, Gap.none)
    if ended || !c'.here isSpaceOrBreak then
      return ⟨text, stop, gap.broken, c'⟩
    let (gap, c'') ← readGap (some indent) (c'.rest.length + 1) gap c'
    if !flow && (c''.mark.column : Int) < indent then
      return ⟨text, stop, gap.broken, c''⟩
    plainWords flow indent start fuel text stop gap c''

/-- Reads a plain scalar; `parentIndent` is the indentation of the enclosing block collection. -/
def readPlain (flow : Bool) (parentIndent : Int) (c : Cursor) : Except SyntaxFault PlainRead :=
  plainWords flow (parentIndent + 1) c.mark (c.rest.length + 1) [] c.mark Gap.none c

/-! ## Quoted scalars -/

/-- The character that a single-character escape stands for. -/
def simpleEscape? (c : Char) : Option Char :=
  match c with
  | '0' => some '\x00'
  | 'a' => some '\x07'
  | 'b' => some '\x08'
  | 't' => some '\t'
  | '\t' => some '\t'
  | 'n' => some '\n'
  | 'v' => some '\x0b'
  | 'f' => some '\x0c'
  | 'r' => some '\r'
  | 'e' => some '\x1b'
  | ' ' => some ' '
  | '"' => some '"'
  | '/' => some '/'
  | '\\' => some '\\'
  | 'N' => some '\u0085'
  | '_' => some '\u00a0'
  | 'L' => some '\u2028'
  | 'P' => some '\u2029'
  | _ => none

/-- The number of hexadecimal digits after a numeric escape. -/
def escapeWidth? (c : Char) : Option Nat :=
  match c with
  | 'x' => some 2
  | 'u' => some 4
  | 'U' => some 8
  | _ => none

/-- The value of a hexadecimal digit. -/
def hexValue? (c : Char) : Option Nat :=
  if c.isDigit then some (c.toNat - 48)
  else if 'a' ≤ c ∧ c ≤ 'f' then some (c.toNat - 87)
  else if 'A' ≤ c ∧ c ≤ 'F' then some (c.toNat - 55)
  else none

/-- The number written by exactly `n` hexadecimal digits. -/
def hexNumber? : Nat → Nat → List Char → Option Nat
  | 0, acc, _ => some acc
  | _ + 1, _, [] => none
  | n + 1, acc, c :: cs =>
    match hexValue? c with
    | some d => hexNumber? n (acc * 16 + d) cs
    | none => none

/-- Reads the non-blank characters of a quoted scalar up to the closing quote or white space.
`true`: an escaped line break ended the run. -/
def quotedWord (single : Bool) (start : Mark) :
    Nat → List Char → Cursor → Except SyntaxFault (List Char × Cursor × Bool)
  | 0, acc, c => .ok (acc.reverse, c, false)
  | fuel + 1, acc, c =>
    let fault (problem : String) : SyntaxFault :=
      ⟨problem, c.mark, some ("while scanning a quoted scalar", start)⟩
    match c.rest with
    | [] => .ok (acc.reverse, c, false)
    | ch :: tail =>
      if isSpaceOrBreak ch then .ok (acc.reverse, c, false)
      else if single then
        if ch == '\'' then
          if tail.head? == some '\'' then quotedWord single start fuel ('\'' :: acc) (c.skipN 2)
          else .ok (acc.reverse, c, false)
        else quotedWord single start fuel (ch :: acc) c.skip
      else if ch == '"' then .ok (acc.reverse, c, false)
      else if ch == '\\' then
        match tail with
        | [] => .error (fault "found unknown escape character")
        | e :: digits =>
          if isBreak e then .ok (acc.reverse, c.skip.skipLine, true)
          else match simpleEscape? e with
            | some out => quotedWord single start fuel (out :: acc) (c.skipN 2)
            | none =>
              match escapeWidth? e with
              | none => .error (fault "found unknown escape character")
              | some width =>
                match hexNumber? width 0 digits with
                | none => .error (fault "did not find expected hexdecimal number")
                | some code =>
                  if (0xd800 ≤ code && code ≤ 0xdfff) || 0x10ffff < code then
                    .error (fault "found invalid Unicode character escape code")
                  else
                    quotedWord single start fuel (Char.ofNat code :: acc) (c.skipN (2 + width))
      else quotedWord single start fuel (ch :: acc) c.skip

/-- Reads words and gaps until the closing quote. -/
def quotedWords (single : Bool) (start : Mark) :
    Nat → List Char → Cursor → Except SyntaxFault (List Char × Cursor)
  | 0, text, c => .ok (text, c)
  | fuel + 1, text, c => do
    let fault (problem : String) : SyntaxFault :=
      ⟨problem, c.mark, some ("while scanning a quoted scalar", start)⟩
    if c.atMarker '-' || c.atMarker '.' then
      throw (fault "found unexpected document indicator")
    if c.isDone then
      throw (fault "found unexpected end of stream")
    let (word, c', continued) ← quotedWord single start (c.rest.length + 1) [] c
    let text := text ++ word
    if !continued && c'.at_ 0 (if single then '\'' else '"') then
      return (text, c'.skip)
    if continued && c'.at_ 0 (if single then '\'' else '"') then
      return (text, c'.skip)
    let gap := if continued then { Gap.none with broken := true } else Gap.none
    let (gap, c'') ← readGap none (c'.rest.length + 1) gap c'
    let joined :=
      if gap.broken && gap.first.isEmpty then gap.others else gap.joined
    quotedWords single start fuel (text ++ joined) c''

/-- Reads a quoted scalar that starts at the opening quote. -/
def readQuoted (single : Bool) (c : Cursor) : Except SyntaxFault (List Char × Cursor) :=
  quotedWords single c.mark (c.rest.length + 1) [] c.skip

/-! ## Block scalars -/

/-- What becomes of the line breaks at the end of a block scalar. -/
inductive Chomping where
  | strip
  | clip
  | keep
deriving DecidableEq, Repr

/-- Reads the chomping and indentation indicators in either order. -/
def blockHeader (start : Mark) (c : Cursor) :
    Except SyntaxFault (Chomping × Nat × Cursor) := do
  let zero : SyntaxFault :=
    ⟨"found an indentation indicator equal to 0", c.mark,
      some ("while scanning a block scalar", start)⟩
  let chomp (c : Cursor) : Option Chomping :=
    if c.at_ 0 '+' then some .keep else if c.at_ 0 '-' then some .strip else none
  let digit (c : Cursor) : Option Nat :=
    match c.peek? 0 with
    | some d => if d.isDigit then some (d.toNat - 48) else none
    | none => none
  match chomp c with
  | some k =>
    let c := c.skip
    match digit c with
    | some 0 => throw zero
    | some n => return (k, n, c.skip)
    | none => return (k, 0, c)
  | none =>
    match digit c with
    | some 0 => throw zero
    | some n =>
      let c := c.skip
      match chomp c with
      | some k => return (k, n, c.skip)
      | none => return (.clip, n, c)
    | none => return (.clip, 0, c)

/-- Reads the indentation and the empty lines before a line of a block scalar. An unknown
indentation (`0`) becomes the widest one met, but lies right of the enclosing collection. -/
def blockBreaks (parentIndent : Int) (start : Mark) :
    Nat → Nat → Nat → List Char → Mark → Cursor →
    Except SyntaxFault (Nat × List Char × Mark × Cursor)
  | 0, indent, _, breaks, stop, c => .ok (indent, breaks, stop, c)
  | fuel + 1, indent, widest, breaks, stop, c => do
    let room := if indent == 0 then c.rest.length else indent - c.mark.column
    let n := min room (c.rest.takeWhile (· == ' ')).length
    let c := c.skipN n
    let widest := max widest c.mark.column
    if (indent == 0 || c.mark.column < indent) && c.at_ 0 '\t' then
      throw ⟨"found a tab character where an indentation space is expected", c.mark,
        some ("while scanning a block scalar", start)⟩
    if c.here isBreak then
      let c' := c.skipLine
      blockBreaks parentIndent start fuel indent widest (breaks ++ c.lineBreak) c'.mark c'
    else
      let indent :=
        if indent == 0 then max (max widest (parentIndent + 1).toNat) 1 else indent
      return (indent, breaks, stop, c)

/-- Reads the lines of a block scalar. `leading` is the break that ended the line before, `trailing`
the breaks of empty lines after it, `blank` whether that line started with a blank. -/
def blockLines (literal : Bool) (parentIndent : Int) (start : Mark) (indent : Nat) :
    Nat → List Char → List Char → List Char → Bool → Mark → Cursor →
    Except SyntaxFault (List Char × List Char × List Char × Mark × Cursor)
  | 0, text, leading, trailing, _, stop, c => .ok (text, leading, trailing, stop, c)
  | fuel + 1, text, leading, trailing, blank, stop, c => do
    if c.mark.column != indent || c.isDone then
      return (text, leading, trailing, stop, c)
    let nowBlank := c.here isSpace
    let joint :=
      if !literal && leading == ['\n'] && !blank && !nowBlank then
        (if trailing.isEmpty then [' '] else [])
      else leading
    let (line, c') := c.span (!isBreak ·)
    let ending := c'.lineBreak
    let c'' := c'.skipLine
    let (_, breaks, stop, c''') ←
      blockBreaks parentIndent start (c''.rest.length + 1) indent 0 [] c''.mark c''
    blockLines literal parentIndent start indent fuel
      (text ++ joint ++ trailing ++ line) ending breaks nowBlank stop c'''

/-- Reads a block scalar that starts at `|` or `>`: its text, where it stops, and what follows. -/
def readBlock (literal : Bool) (parentIndent : Int) (c : Cursor) :
    Except SyntaxFault (List Char × Mark × Cursor) := do
  let start := c.mark
  let (chomping, increment, c) ← blockHeader start c.skip
  let c := (c.skipWhile isSpace).skipComment
  if !c.endOr 0 isBreak then
    throw ⟨"did not find expected comment or line break", c.mark,
      some ("while scanning a block scalar", start)⟩
  let c := c.skipLine
  let indent :=
    if increment == 0 then 0
    else if 0 ≤ parentIndent then parentIndent.toNat + increment else increment
  let (indent, breaks, stop, c) ←
    blockBreaks parentIndent start (c.rest.length + 1) indent 0 [] c.mark c
  let (text, leading, trailing, stop, c) ←
    blockLines literal parentIndent start indent (c.rest.length + 1) [] [] breaks false stop c
  let tail :=
    match chomping with
    | .strip => []
    | .clip => leading
    | .keep => leading ++ trailing
  return (text ++ tail, stop, c)

end BrokerRelay.Yaml
