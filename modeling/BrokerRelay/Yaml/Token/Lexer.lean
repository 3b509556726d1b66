import BrokerRelay.Yaml.Token.Scalar
import BrokerRelay.Yaml.Token.Tag
/-!
# From text to tokens

The lexer keeps the indentation of the open block collections and, for each open flow collection,
the place where a key may have started. A key without `?` is recognised only at its `:`; the key
token is then inserted before the tokens already read.

`Token.ofText` is the entry: the tokens of a whole text, closed by the end token.
-/

namespace BrokerRelay.Yaml

/-- A place where a key without `?` may have started. It is `required` when nothing else can stand
there, and `index` is the number of tokens before it. -/
structure KeyCandidate where
  required : Bool
  index : Nat
  mark : Mark

/-- The state of the lexer. `candidates` has one entry for the block context and one for each open
flow collection, innermost first. -/
structure Lexer where
  cursor : Cursor
  indent : Int
  outerIndents : List Int
  candidates : List (Option KeyCandidate)
  keyAllowed : Bool
  tokens : Array Token

namespace Lexer

/-- The lexer at the start of a text. -/
def start (text : List Char) : Lexer := ⟨⟨text, .start⟩, -1, [], [none], true, #[]⟩

/-- A flow collection is open. -/
def inFlow (l : Lexer) : Bool := 1 < l.candidates.length

/-- The place of the next character. -/
def mark (l : Lexer) : Mark := l.cursor.mark

/-- Appends a token. -/
def push (l : Lexer) (t : Token) : Lexer := { l with tokens := l.tokens.push t }

/-- Inserts a token before the one at `index`. -/
def insertAt (l : Lexer) (index : Nat) (t : Token) : Lexer :=
  { l with tokens := (l.tokens.extract 0 index).push t ++ l.tokens.extract index l.tokens.size }

/-- Appends an indicator token of `n` characters and drops them. -/
def pushIndicator (l : Lexer) (kind : TokenKind) (n : Nat) : Lexer :=
  let c := l.cursor.skipN n
  { l with cursor := c, tokens := l.tokens.push ⟨kind, l.mark, c.mark⟩ }

/-! ## Indentation -/

/-- Opens a block collection at `column` if it lies right of the current one; its start token goes
to `index`. -/
def openBlock (l : Lexer) (column : Nat) (index : Nat) (kind : TokenKind) (m : Mark) : Lexer :=
  if !l.inFlow && l.indent < column then
    { l with indent := column, outerIndents := l.indent :: l.outerIndents }.insertAt index ⟨kind, m, m⟩
  else l

/-- Closes the block collections right of `column`. -/
def closeBlocksFrom (column : Int) (here : Mark) :
    Int → List Int → Array Token → Int × List Int × Array Token
  | indent, [], ts => (indent, [], ts)
  | indent, outer :: rest, ts =>
    if column < indent then closeBlocksFrom column here outer rest (ts.push ⟨.blockEnd, here, here⟩)
    else (indent, outer :: rest, ts)

/-- Closes the block collections right of `column`, unless a flow collection is open. -/
def closeBlocks (l : Lexer) (column : Int) : Lexer :=
  if l.inFlow then l
  else
    let (indent, outer, tokens) := closeBlocksFrom column l.mark l.indent l.outerIndents l.tokens
    { l with indent := indent, outerIndents := outer, tokens := tokens }

/-! ## Key candidates -/

/-- The fault of a required key that is not followed by `:`. -/
def missingColon (k : KeyCandidate) (here : Mark) : SyntaxFault :=
  ⟨"could not find expected ':'", here, some ("while scanning a simple key", k.mark)⟩

/-- Drops the candidates that the text has left behind: a key lies on one line and within 1024
characters. -/
def dropStale (l : Lexer) : Except SyntaxFault Lexer := do
  let candidates ← l.candidates.mapM fun candidate =>
    match candidate with
    | none => .ok none
    | some k =>
      if k.mark.line < l.mark.line || k.mark.index + 1024 < l.mark.index then
        if k.required then .error (missingColon k l.mark) else .ok none
      else .ok (some k)
  return { l with candidates := candidates }

/-- Drops the innermost candidate. -/
def dropCandidate (l : Lexer) : Except SyntaxFault Lexer :=
  match l.candidates with
  | some k :: rest =>
    if k.required then .error (missingColon k l.mark)
    else .ok { l with candidates := none :: rest }
  | _ => .ok l

/-- Remembers that a key may start here. -/
def saveCandidate (l : Lexer) : Except SyntaxFault Lexer := do
  if l.keyAllowed then
    let l' ← l.dropCandidate
    let k : KeyCandidate :=
      ⟨!l.inFlow && l.indent == (l.mark.column : Int), l.tokens.size, l.mark⟩
    return { l' with candidates := some k :: l'.candidates.drop 1 }
  else return l

/-! ## Between tokens -/

/-- Drops white space and comments before a token. A line break in block context allows a key. -/
def skipGap : Nat → Lexer → Lexer
  | 0, l => l
  | fuel + 1, l =>
    let c := if l.mark.column == 0 && l.cursor.at_ 0 '\ufeff' then l.cursor.skip else l.cursor
    let tabs := l.inFlow || !l.keyAllowed
    let c := (c.skipWhile fun ch => ch == ' ' || (tabs && ch == '\t')).skipComment
    if c.here isBreak then
      skipGap fuel { l with cursor := c.skipLine, keyAllowed := l.keyAllowed || !l.inFlow }
    else { l with cursor := c }

/-! ## Tokens -/

/-- The end of the text closes every block collection. -/
def atEnd (l : Lexer) : Except SyntaxFault Lexer := do
  let m := if l.mark.column == 0 then l.mark else ⟨l.mark.index, l.mark.line + 1, 0⟩
  let l := { l with cursor := { l.cursor with mark := m } }.closeBlocks (-1)
  let l ← l.dropCandidate
  return { l with keyAllowed := false }.push ⟨.streamEnd, l.mark, l.mark⟩

/-- Leaves the block context before a directive or a document marker. -/
def leaveDocument (l : Lexer) : Except SyntaxFault Lexer := do
  let l ← (l.closeBlocks (-1)).dropCandidate
  return { l with keyAllowed := false }

/-- A directive line. -/
def atDirective (l : Lexer) : Except SyntaxFault Lexer := do
  let l ← l.leaveDocument
  let (t, c) ← readDirective l.cursor
  return { l with cursor := c }.push t

/-- A document marker. -/
def atMarker (l : Lexer) (kind : TokenKind) : Except SyntaxFault Lexer := do
  let l ← l.leaveDocument
  return l.pushIndicator kind 3

/-- The start of a flow collection. -/
def atFlowStart (l : Lexer) (kind : TokenKind) : Except SyntaxFault Lexer := do
  let l ← l.saveCandidate
  return { l with candidates := none :: l.candidates, keyAllowed := true }.pushIndicator kind 1

/-- The end of a flow collection. -/
def atFlowEnd (l : Lexer) (kind : TokenKind) : Except SyntaxFault Lexer := do
  let l ← l.dropCandidate
  let candidates := if l.inFlow then l.candidates.drop 1 else l.candidates
  return { l with candidates := candidates, keyAllowed := false }.pushIndicator kind 1

/-- A comma in a flow collection. -/
def atFlowEntry (l : Lexer) : Except SyntaxFault Lexer := do
  let l ← l.dropCandidate
  return { l with keyAllowed := true }.pushIndicator .flowEntry 1

/-- The `-` of a block sequence. -/
def atBlockEntry (l : Lexer) : Except SyntaxFault Lexer := do
  if !l.inFlow && !l.keyAllowed then
    throw ⟨"block sequence entries are not allowed in this context", l.mark, none⟩
  let l ← (l.openBlock l.mark.column l.tokens.size .blockSequenceStart l.mark).dropCandidate
  return { l with keyAllowed := true }.pushIndicator .blockEntry 1

/-- The `?` before a key. -/
def atKey (l : Lexer) : Except SyntaxFault Lexer := do
  if !l.inFlow && !l.keyAllowed then
    throw ⟨"mapping keys are not allowed in this context", l.mark, none⟩
  let l ← (l.openBlock l.mark.column l.tokens.size .blockMappingStart l.mark).dropCandidate
  return { l with keyAllowed := !l.inFlow }.pushIndicator .key 1

/-- The `:` before a value. It turns the candidate, if there is one, into a key. -/
def atValue (l : Lexer) : Except SyntaxFault Lexer := do
  match l.candidates with
  | some k :: rest =>
    let l := l.insertAt k.index ⟨.key, k.mark, k.mark⟩
    let l := l.openBlock k.mark.column k.index .blockMappingStart k.mark
    return { l with candidates := none :: rest, keyAllowed := false }.pushIndicator .value 1
  | _ =>
    if !l.inFlow && !l.keyAllowed then
      throw ⟨"mapping values are not allowed in this context", l.mark, none⟩
    let l := l.openBlock l.mark.column l.tokens.size .blockMappingStart l.mark
    return { l with keyAllowed := !l.inFlow }.pushIndicator .value 1

/-- A token that may itself be a key: an anchor, an alias, a tag or a quoted scalar. -/
def atKeyLike (l : Lexer) (read : Cursor → Except SyntaxFault (Token × Cursor)) :
    Except SyntaxFault Lexer := do
  let l ← l.saveCandidate
  let (t, c) ← read l.cursor
  return { l with cursor := c, keyAllowed := false }.push t

/-- A block scalar. -/
def atBlockScalar (l : Lexer) (literal : Bool) : Except SyntaxFault Lexer := do
  let l ← l.dropCandidate
  let (text, stop, c) ← readBlock literal l.indent l.cursor
  let style := if literal then ScalarStyle.literal else .folded
  return { l with cursor := c, keyAllowed := true }.push
    ⟨.scalar style (String.ofList text), l.mark, stop⟩

/-- A quoted scalar. -/
def quotedToken (single : Bool) (c : Cursor) : Except SyntaxFault (Token × Cursor) := do
  let (text, c') ← readQuoted single c
  let style := if single then ScalarStyle.singleQuoted else .doubleQuoted
  return (⟨.scalar style (String.ofList text), c.mark, c'.mark⟩, c')

/-- A plain scalar. -/
def atPlain (l : Lexer) : Except SyntaxFault Lexer := do
  let l ← l.saveCandidate
  let r ← readPlain l.inFlow l.indent l.cursor
  return { l with cursor := r.cursor, keyAllowed := r.broken }.push
    ⟨.scalar .plain (String.ofList r.text), l.mark, r.stop⟩

/-- A plain scalar can start with `ch`: it is no indicator, or an indicator that the next character
makes part of a word. -/
def startsPlain (l : Lexer) (ch : Char) : Bool :=
  !(isSpaceOrBreak ch || "-?:,[]\x7b\x7d#&*!|>'\"%@\x60".toList.contains ch)
    || (ch == '-' && !(match l.cursor.peek? 1 with
          | some d => isSpace d
          | none => false))
    || (!l.inFlow && (ch == '?' || ch == ':') && !l.cursor.endOr 1 isSpaceOrBreak)

/-- Reads the token that starts with `ch`. -/
def tokenAt (l : Lexer) (ch : Char) : Except SyntaxFault Lexer :=
  let loose := l.inFlow || l.cursor.endOr 1 isSpaceOrBreak
  if l.mark.column == 0 && ch == '%' then l.atDirective
  else if l.cursor.atMarker '-' then l.atMarker .documentStart
  else if l.cursor.atMarker '.' then l.atMarker .documentEnd
  else if ch == '[' then l.atFlowStart .flowSequenceStart
  else if ch == '\x7b' then l.atFlowStart .flowMappingStart
  else if ch == ']' then l.atFlowEnd .flowSequenceEnd
  else if ch == '\x7d' then l.atFlowEnd .flowMappingEnd
  else if ch == ',' then l.atFlowEntry
  else if ch == '-' && l.cursor.endOr 1 isSpaceOrBreak then l.atBlockEntry
  else if ch == '?' && loose then l.atKey
  else if ch == ':' && loose then l.atValue
  else if ch == '*' then l.atKeyLike (readAnchor .alias "an alias")
  else if ch == '&' then l.atKeyLike (readAnchor .anchor "an anchor")
  else if ch == '!' then l.atKeyLike (readTag l.inFlow)
  else if ch == '|' && !l.inFlow then l.atBlockScalar true
  else if ch == '>' && !l.inFlow then l.atBlockScalar false
  else if ch == '\'' then l.atKeyLike (quotedToken true)
  else if ch == '"' then l.atKeyLike (quotedToken false)
  else if l.startsPlain ch then l.atPlain
  else .error ⟨"found character that cannot start any token", l.mark,
    some ("while scanning for the next token", l.mark)⟩

/-- Reads tokens to the end of the text; every step reads a character or ends. -/
def run : Nat → Lexer → Except SyntaxFault (Array Token)
  | 0, l => .ok l.tokens
  | fuel + 1, l => do
    let l ← (skipGap (l.cursor.rest.length + 1) l).dropStale
    let l := l.closeBlocks l.mark.column
    match l.cursor.rest with
    | [] => return (← l.atEnd).tokens
    | ch :: _ => run fuel (← l.tokenAt ch)

end Lexer

/-- The characters that may stand in a text. -/
def isTextChar (c : Char) : Bool :=
  let n := c.toNat
  n == 9 || n == 10 || n == 13 || (0x20 ≤ n && n ≤ 0x7e) || n == 0x85 || (0xa0 ≤ n && n ≤ 0xd7ff)
    || (0xe000 ≤ n && n ≤ 0xfffd) || 0x10000 ≤ n

/-- The tokens of a text, closed by the end token. -/
def Token.ofText (text : List Char) : Except SyntaxFault (Array Token) :=
  match text.findIdx? (!isTextChar ·) with
  | some i => .error ⟨"control characters are not allowed", ⟨i, 0, 0⟩, none⟩
  | none => Lexer.run (text.length + 2) (Lexer.start text)

end BrokerRelay.Yaml
