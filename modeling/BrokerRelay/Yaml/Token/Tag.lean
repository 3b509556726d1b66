import BrokerRelay.Bytes
import BrokerRelay.Yaml.Cursor
import BrokerRelay.Yaml.Token
/-!
# Directives, tags and anchors

The tokens that are built from names: directives before a document, node tags, anchors and aliases.
A tag is a handle, which a directive may expand, and a suffix, in which `%` escapes stand for the
bytes of UTF-8 characters.
-/

namespace BrokerRelay.Yaml

/-- The characters of a tag suffix; the flow indicators among them only inside `<` and `>`. -/
def isUriChar (verbatim : Bool) (c : Char) : Bool :=
  isWordChar c || ";/?:@&=+$.!~*'()%".toList.contains c || (verbatim && ",[]".toList.contains c)

/-- The number of bytes in the UTF-8 form that starts with `lead`. -/
def utf8Width? (lead : Nat) : Option Nat :=
  if lead < 0x80 then some 1
  else if 0xc0 ≤ lead ∧ lead < 0xe0 then some 2
  else if 0xe0 ≤ lead ∧ lead < 0xf0 then some 3
  else if 0xf0 ≤ lead ∧ lead < 0xf8 then some 4
  else none

/-- The byte written by a `%` and two hexadecimal digits at the front. -/
def uriOctet? : List Char → Option UInt8
  | '%' :: hi :: lo :: _ => do
    let h ← Bytes.hexDigit? hi
    let l ← Bytes.hexDigit? lo
    pure (UInt8.ofNat (h * 16 + l))
  | _ => none

/-- Reads `n` escaped octets that continue a character. -/
def uriTrail : Nat → Bytes → Cursor → Except String (Bytes × Cursor)
  | 0, acc, c => .ok (acc.reverse, c)
  | n + 1, acc, c =>
    match uriOctet? c.rest with
    | none => .error "did not find URI escaped octet"
    | some b =>
      if Bytes.isContinuation b then uriTrail n (b :: acc) (c.skipN 3)
      else .error "found an incorrect trailing UTF-8 octet"

/-- Reads the escaped octets of one character. -/
def uriEscape (c : Cursor) : Except String (List Char × Cursor) := do
  match uriOctet? c.rest with
  | none => throw "did not find URI escaped octet"
  | some lead =>
    match utf8Width? lead.toNat with
    | none => throw "found an incorrect leading UTF-8 octet"
    | some width =>
      let (trail, c) ← uriTrail (width - 1) [] (c.skipN 3)
      match Bytes.decodeChars (lead :: trail) with
      | .ok cs => return (cs, c)
      | .error _ => return (['\ufffd'], c)

/-- Reads the characters of a tag suffix or expansion. -/
def uriChars (verbatim : Bool) : Nat → List Char → Cursor → Except String (List Char × Cursor)
  | 0, acc, c => .ok (acc, c)
  | fuel + 1, acc, c =>
    match c.rest with
    | [] => .ok (acc, c)
    | ch :: _ =>
      if !isUriChar verbatim ch then .ok (acc, c)
      else if ch == '%' then do
        let (cs, c) ← uriEscape c
        uriChars verbatim fuel (acc ++ cs) c
      else uriChars verbatim fuel (acc ++ [ch]) c.skip

/-- Reads a tag suffix after the characters `head` that already belong to it. -/
def readUri (verbatim : Bool) (head : List Char) (headCounts : Bool)
    (fault : String → Mark → SyntaxFault) (c : Cursor) :
    Except SyntaxFault (List Char × Cursor) :=
  match uriChars verbatim (c.rest.length + 1) [] c with
  | .error problem => .error (fault problem c.mark)
  | .ok (cs, c') =>
    if cs.isEmpty && !headCounts then .error (fault "did not find expected tag URI" c'.mark)
    else .ok (head ++ cs, c')

/-- Reads a tag handle: `!`, word characters, and a closing `!` that a directive demands. -/
def readHandle (directive : Bool) (fault : String → Mark → SyntaxFault) (c : Cursor) :
    Except SyntaxFault (List Char × Cursor) := do
  if !c.at_ 0 '!' then throw (fault "did not find expected '!'" c.mark)
  let (name, c) := c.skip.span isWordChar
  if c.at_ 0 '!' then return ('!' :: name ++ ['!'], c.skip)
  else if directive && !name.isEmpty then throw (fault "did not find expected '!'" c.mark)
  else return ('!' :: name, c)

/-- Reads a node tag at the cursor. -/
def readTag (flow : Bool) (c : Cursor) : Except SyntaxFault (Token × Cursor) := do
  let start := c.mark
  let fault (problem : String) (m : Mark) : SyntaxFault :=
    ⟨problem, m, some ("while scanning a tag", start)⟩
  let (handle, suffix, c) ←
    if c.at_ 1 '<' then do
      let (uri, c) ← readUri true [] false fault (c.skipN 2)
      if !c.at_ 0 '>' then throw (fault "did not find the expected '>'" c.mark)
      pure (([] : List Char), uri, c.skip)
    else do
      let (handle, c) ← readHandle false fault c
      if handle.length > 1 && handle.getLast? == some '!' then
        let (suffix, c) ← readUri false [] false fault c
        pure (handle, suffix, c)
      else
        let (suffix, c) ← readUri false (handle.drop 1) true fault c
        if suffix.isEmpty then pure ([], ['!'], c) else pure (['!'], suffix, c)
  if !(flow && c.at_ 0 ',') && !c.endOr 0 isSpaceOrBreak then
    throw (fault "did not find expected whitespace or line break" c.mark)
  return (⟨.tag (String.ofList handle) (String.ofList suffix), start, c.mark⟩, c)

/-- Reads an anchor or an alias at the cursor; `make` builds the token from the name. -/
def readAnchor (make : String → TokenKind) (what : String) (c : Cursor) :
    Except SyntaxFault (Token × Cursor) :=
  let (name, c') := c.skip.span isWordChar
  if name.isEmpty || !c'.endOr 0 (fun ch => isSpaceOrBreak ch || "?:,]\x7d%@\x60".toList.contains ch) then
    .error ⟨"did not find expected alphabetic or numeric character", c'.mark,
      some ("while scanning " ++ what, c.mark)⟩
  else .ok (⟨make (String.ofList name), c.mark, c'.mark⟩, c')

/-- Reads a number of at most nine digits. -/
def readVersionNumber (fault : String → Mark → SyntaxFault) (c : Cursor) :
    Except SyntaxFault (Nat × Cursor) :=
  let (digits, c') := c.span Char.isDigit
  if digits.isEmpty then .error (fault "did not find expected version number" c'.mark)
  else if 9 < digits.length then .error (fault "found extremely long version number" c'.mark)
  else .ok (digits.foldl (fun n d => n * 10 + (d.toNat - 48)) 0, c')

/-- Reads a directive and the line that it stands on. -/
def readDirective (c : Cursor) : Except SyntaxFault (Token × Cursor) := do
  let start := c.mark
  let fault (problem : String) (m : Mark) : SyntaxFault :=
    ⟨problem, m, some ("while scanning a directive", start)⟩
  let (name, c) := c.skip.span isWordChar
  if name.isEmpty then throw (fault "could not find expected directive name" c.mark)
  if !c.endOr 0 isSpaceOrBreak then
    throw (fault "found unexpected non-alphabetical character" c.mark)
  let (kind, c) ←
    if name == "YAML".toList then do
      let (major, c) ← readVersionNumber fault (c.skipWhile isSpace)
      if !c.at_ 0 '.' then throw (fault "did not find expected digit or '.' character" c.mark)
      let (minor, c) ← readVersionNumber fault c.skip
      pure (TokenKind.versionDirective major minor, c)
    else if name == "TAG".toList then do
      let (handle, c) ← readHandle true fault (c.skipWhile isSpace)
      if !c.here isSpace then throw (fault "did not find expected whitespace" c.mark)
      let (uri, c) ← readUri true [] false fault (c.skipWhile isSpace)
      if !c.endOr 0 isSpaceOrBreak then
        throw (fault "did not find expected whitespace or line break" c.mark)
      pure (TokenKind.tagDirective (String.ofList handle) (String.ofList uri), c)
    else throw (fault "found unknown directive name" c.mark)
  let stop := c.mark
  let c := (c.skipWhile isSpace).skipComment
  if !c.endOr 0 isBreak then
    throw (fault "did not find expected comment or line break" c.mark)
  return (⟨kind, start, stop⟩, c.skipLine)

end BrokerRelay.Yaml
