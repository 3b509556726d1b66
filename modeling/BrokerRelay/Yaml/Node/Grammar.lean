import BrokerRelay.Yaml.Node
import BrokerRelay.Yaml.Token.Lexer
/-!
# From tokens to a document

Recursive descent over the tokens. Block and flow collections have the same tree but different
rules about what may be left out; a part that is left out is an empty plain scalar whose place is
where it would have stood.

`Document.ofText` is the entry. It accepts a text only when the whole of it is one document.
-/

namespace BrokerRelay.Yaml

/-- The state of the descent: unread tokens, the handles that directives define, the number last
given to each anchor name, the anchored nodes finished so far, and how many nodes have started. -/
structure Descent where
  tokens : List Token
  handles : List (String × String)
  names : List (String × Nat)
  anchored : List Anchored
  started : Nat

/-- A step of the descent. -/
abbrev Descend := StateT Descent (Except SyntaxFault)

namespace Descend

/-- The next token. After the last one the end token stands again. -/
def peek : Descend Token := do
  match (← get).tokens with
  | t :: _ => return t
  | [] => return ⟨.streamEnd, .start, .start⟩

/-- Drops the next token. -/
def advance : Descend Unit := modify fun s => { s with tokens := s.tokens.drop 1 }

/-- Fails at a token. -/
def refuse {α : Type} (context problem : String) (t : Token) : Descend α :=
  throw ⟨problem, t.start, some (context, t.start)⟩

/-- Counts a node that starts here and gives it its order. -/
def startNode : Descend Nat := do
  let s ← get
  set { s with started := s.started + 1 }
  return s.started

/-- Records the name of an anchor. Its number is the count of different names so far. -/
def nameAnchor (name : Option String) : Descend (Option Nat) := do
  match name with
  | none => return none
  | some name =>
    let s ← get
    let number := s.names.length
    set { s with names := (name, number) :: s.names.filter (·.1 != name) }
    return some number

/-- Records a finished anchored node. -/
def keepAnchored (target : Option Nat) (order : Nat) (node : Node) : Descend Unit :=
  match target with
  | none => pure ()
  | some target => modify fun s => { s with anchored := ⟨target, order, node⟩ :: s.anchored }

/-- An empty scalar in the place of a part that was left out. -/
def emptyAt (m : Mark) : Descend Node := do
  let _ ← startNode
  return .scalar m none .plain ""

/-- The full tag of a handle and a suffix. -/
def expandTag (handle suffix : String) (t : Token) : Descend String := do
  if handle.isEmpty then return suffix
  match (← get).handles.lookup handle with
  | some expansion => return expansion ++ suffix
  | none => refuse "while parsing a node" "found undefined tag handle" t

/-- The anchor and tag before a node, in either order. -/
structure Properties where
  anchor : Option String
  tag : Option String
  start : Option Mark

/-- Reads the anchor and the tag before a node. -/
def properties : Descend Properties := do
  let first ← peek
  match first.kind with
  | .anchor name =>
    advance
    let second ← peek
    match second.kind with
    | .tag handle suffix =>
      advance
      return ⟨some name, some (← expandTag handle suffix second), some first.start⟩
    | _ => return ⟨some name, none, some first.start⟩
  | .tag handle suffix =>
    advance
    let second ← peek
    match second.kind with
    | .anchor name =>
      advance
      return ⟨some name, some (← expandTag handle suffix first), some first.start⟩
    | _ => return ⟨none, some (← expandTag handle suffix first), some first.start⟩
  | _ => return ⟨none, none, none⟩

/-- A key or value of a block mapping is left out before these tokens. -/
def endsBlockPart : TokenKind → Bool
  | .key | .value | .blockEnd => true
  | _ => false

/-- An entry of an indentless sequence is left out before these tokens. -/
def endsIndentlessEntry : TokenKind → Bool
  | .blockEntry | .key | .value | .blockEnd => true
  | _ => false

mutual

/-- Reads a node. `block` admits block collections, `indentless` a block sequence that is not
indented under its key. -/
def node (fuel : Nat) (block indentless : Bool) : Descend Node := do
  match fuel with
  | 0 => refuse "while parsing a node" "did not find expected node content" (← peek)
  | fuel + 1 =>
    let t ← peek
    match t.kind with
    | .alias name =>
      advance
      let _ ← startNode
      match (← get).names.lookup name with
      | some target => return .alias t.start target
      | none => throw ⟨"unknown anchor", t.start, none⟩
    | _ =>
      let p ← properties
      let t ← peek
      let start := p.start.getD t.start
      let finish (build : Descend Node) : Descend Node := do
        let target ← nameAnchor p.anchor
        let order ← startNode
        let n ← build
        keepAnchored target order n
        return n
      match t.kind with
      | .blockEntry =>
        if indentless then
          finish do return .sequence start p.tag (← indentlessEntries fuel)
        else if p.start.isSome then
          finish (return .scalar start p.tag .plain "")
        else refuse "while parsing a block node" "did not find expected node content" t
      | .scalar style text =>
        advance
        finish (return .scalar start (p.tag.filter (· != "!")) style text)
      | .flowSequenceStart =>
        advance
        finish do return .sequence start p.tag (← flowEntries fuel true)
      | .flowMappingStart =>
        advance
        finish do return .mapping start p.tag (← flowPairs fuel true)
      | .blockSequenceStart =>
        if block then
          advance
          finish do return .sequence start p.tag (← blockEntries fuel)
        else if p.start.isSome then
          finish (return .scalar start p.tag .plain "")
        else refuse "while parsing a flow node" "did not find expected node content" t
      | .blockMappingStart =>
        if block then
          advance
          finish do return .mapping start p.tag (← blockPairs fuel)
        else if p.start.isSome then
          finish (return .scalar start p.tag .plain "")
        else refuse "while parsing a flow node" "did not find expected node content" t
      | _ =>
        if p.start.isSome then finish (return .scalar start p.tag .plain "")
        else refuse "while parsing a node" "did not find expected node content" t

/-- Reads the entries of an indented block sequence and its end. -/
def blockEntries (fuel : Nat) : Descend (List Node) := do
  match fuel with
  | 0 => return []
  | fuel + 1 =>
    let t ← peek
    match t.kind with
    | .blockEntry =>
      advance
      let item ←
        match (← peek).kind with
        | .blockEntry | .blockEnd => emptyAt t.stop
        | _ => node fuel true false
      return item :: (← blockEntries fuel)
    | .blockEnd =>
      advance
      return []
    | _ => refuse "while parsing a block collection" "did not find expected '-' indicator" t

/-- Reads the entries of a block sequence that has no indentation of its own. -/
def indentlessEntries (fuel : Nat) : Descend (List Node) := do
  match fuel with
  | 0 => return []
  | fuel + 1 =>
    let t ← peek
    match t.kind with
    | .blockEntry =>
      advance
      let item ←
        if endsIndentlessEntry (← peek).kind then emptyAt t.stop else node fuel true false
      return item :: (← indentlessEntries fuel)
    | _ => return []

/-- Reads the pairs of a block mapping and its end. -/
def blockPairs (fuel : Nat) : Descend (List (Node × Node)) := do
  match fuel with
  | 0 => return []
  | fuel + 1 =>
    let t ← peek
    match t.kind with
    | .key =>
      advance
      let key ←
        if endsBlockPart (← peek).kind then emptyAt t.stop else node fuel true true
      let v ← peek
      let value ←
        match v.kind with
        | .value =>
          advance
          if endsBlockPart (← peek).kind then emptyAt v.stop else node fuel true true
        | _ => emptyAt v.start
      return (key, value) :: (← blockPairs fuel)
    | .blockEnd =>
      advance
      return []
    | _ => refuse "while parsing a block mapping" "did not find expected key" t

/-- Reads the entries of a flow sequence and its end. A pair among the entries is a mapping of its
own. -/
def flowEntries (fuel : Nat) (first : Bool) : Descend (List Node) := do
  match fuel with
  | 0 => return []
  | fuel + 1 =>
    let t ← peek
    if t.kind == .flowSequenceEnd then
      advance
      return []
    if !first then
      if t.kind == .flowEntry then advance
      else refuse "while parsing a flow sequence" "did not find expected ',' or ']'" t
    let t ← peek
    match t.kind with
    | .flowSequenceEnd =>
      advance
      return []
    | .key =>
      advance
      let _ ← startNode
      let k ← peek
      let key ←
        match k.kind with
        | .value | .flowEntry | .flowSequenceEnd =>
          advance
          emptyAt k.stop
        | _ => node fuel false false
      let v ← peek
      let value ←
        match v.kind with
        | .value =>
          advance
          let next ← peek
          match next.kind with
          | .flowEntry | .flowSequenceEnd => emptyAt next.start
          | _ => node fuel false false
        | _ => emptyAt v.start
      return .mapping t.start none [(key, value)] :: (← flowEntries fuel false)
    | _ =>
      let item ← node fuel false false
      return item :: (← flowEntries fuel false)

/-- Reads the pairs of a flow mapping and its end. -/
def flowPairs (fuel : Nat) (first : Bool) : Descend (List (Node × Node)) := do
  match fuel with
  | 0 => return []
  | fuel + 1 =>
    let t ← peek
    if t.kind == .flowMappingEnd then
      advance
      return []
    if !first then
      if t.kind == .flowEntry then advance
      else refuse "while parsing a flow mapping" "did not find expected ',' or '\x7d'" t
    let t ← peek
    match t.kind with
    | .flowMappingEnd =>
      advance
      return []
    | .key =>
      advance
      let k ← peek
      let key ←
        match k.kind with
        | .value | .flowEntry | .flowMappingEnd => emptyAt k.start
        | _ => node fuel false false
      let v ← peek
      let value ←
        match v.kind with
        | .value =>
          advance
          let next ← peek
          match next.kind with
          | .flowEntry | .flowMappingEnd => emptyAt next.start
          | _ => node fuel false false
        | _ => emptyAt v.start
      return (key, value) :: (← flowPairs fuel false)
    | _ =>
      let key ← node fuel false false
      let value ← emptyAt (← peek).start
      return (key, value) :: (← flowPairs fuel false)

end

/-- Reads directives: at most one version, 1.1 or 1.2, and each handle once. -/
def directives : Nat → Bool → List (String × String) → Descend (List (String × String))
  | 0, _, handles => return handles
  | fuel + 1, versioned, handles => do
    let t ← peek
    match t.kind with
    | .versionDirective major minor =>
      if versioned then refuse "while parsing a directive" "found duplicate %YAML directive" t
      if major != 1 || (minor != 1 && minor != 2) then
        refuse "while parsing a directive" "found incompatible YAML document" t
      advance
      directives fuel true handles
    | .tagDirective handle expansion =>
      if (handles.lookup handle).isSome then
        refuse "while parsing a directive" "found duplicate %TAG directive" t
      advance
      directives fuel versioned ((handle, expansion) :: handles)
    | _ => return handles

/-- The handles that need no directive. -/
def standardHandles : List (String × String) := [("!", "!"), ("!!", "tag:yaml.org,2002:")]

/-- The content of an explicitly started document. -/
def content (fuel : Nat) : Descend Node := do
  let t ← peek
  match t.kind with
  | .versionDirective .. | .tagDirective .. | .documentStart | .documentEnd | .streamEnd =>
    emptyAt t.start
  | _ => node fuel true false

/-- Drops document end markers. -/
def skipDocumentEnds : Nat → Descend Unit
  | 0 => pure ()
  | fuel + 1 => do
    if (← peek).kind == .documentEnd then
      advance
      skipDocumentEnds fuel

/-- Reads a stream that holds one document. -/
def document (fuel : Nat) : Descend Node := do
  let t ← peek
  match t.kind with
  | .streamEnd => return .absent t.start
  | _ =>
    let root ←
      match t.kind with
      | .versionDirective .. | .tagDirective .. | .documentStart =>
        let handles ← directives fuel false []
        modify fun s => { s with handles := handles ++ standardHandles }
        let start ← peek
        if start.kind != .documentStart then
          refuse "while parsing a document" "did not find expected <document start>" start
        advance
        content fuel
      | _ =>
        modify fun s => { s with handles := standardHandles }
        node fuel true false
    skipDocumentEnds fuel
    let rest ← peek
    if rest.kind != .streamEnd then
      refuse "while parsing a document" "did not find expected <document start>" rest
    return root

end Descend

/-- The document that a text consists of. -/
def Document.ofText (text : List Char) : Except SyntaxFault Document := do
  let tokens ← Token.ofText text
  let (root, s) ← (Descend.document (4 * tokens.size + 16)).run ⟨tokens.toList, [], [], [], 0⟩
  return ⟨root, s.anchored⟩

end BrokerRelay.Yaml
