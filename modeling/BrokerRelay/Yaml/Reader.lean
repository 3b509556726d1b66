import BrokerRelay.Yaml.Found
/-!
# Reading typed values from a document

A reader turns a node into a value, or says what is wrong. A fault is placed at the innermost node
that places faults at all: scalars and collections do, the steps between them leave it to the
collection around them.

Records are mappings from field names. Unknown fields are passed over, a field may stand once, and a
required field must stand; what is wrong with the fields is reported in the order of the document,
and what is missing after that in the order of the record.
-/

namespace BrokerRelay.Yaml

/-- A step from a node to one inside it; the value of a key that is no scalar has no name. -/
inductive Step where
  | key (name : String)
  | item (index : Nat)
  | unnamed
deriving DecidableEq, Repr

/-- The way from the root to a node, innermost step first. -/
abbrev Path := List Step

/-- The written form of a path. -/
def Path.text : Path → String
  | [] => ""
  | [.key name] => name
  | [.item i] => s!".[{i}]"
  | [.unnamed] => "?"
  | .key name :: outer => Path.text outer ++ "." ++ name
  | .item i :: outer => Path.text outer ++ s!"[{i}]"
  | .unnamed :: outer => Path.text outer ++ ".?"

/-- What is wrong with a node. -/
inductive Complaint where
  | invalidType (found : Found) (expected : String)
  | invalidValue (found : Found) (expected : String)
  | unknownVariant (name : String) (variants : List String)
  | duplicateField (name : String)
  | missingField (name : String)
  | stated (text : String)
deriving DecidableEq, Repr

/-- The alternatives of a choice. -/
def alternatives (names : List String) : String :=
  " or ".intercalate (names.map fun n => "\x60" ++ n ++ "\x60")

/-- The text of a complaint. -/
def Complaint.text : Complaint → String
  | .invalidType found expected => "invalid type: " ++ found.text ++ ", expected " ++ expected
  | .invalidValue found expected => "invalid value: " ++ found.text ++ ", expected " ++ expected
  | .unknownVariant name variants =>
    "unknown variant \x60" ++ name ++ "\x60, expected " ++ alternatives variants
  | .duplicateField name => "duplicate field \x60" ++ name ++ "\x60"
  | .missingField name => "missing field \x60" ++ name ++ "\x60"
  | .stated text => text

/-- A document that does not fit: what is wrong, and where. -/
structure ReadFault where
  complaint : Complaint
  place : Option (Mark × Path)
deriving DecidableEq, Repr

/-- The text of a fault: the path, unless it is the root, the complaint, and the place, unless it is
the start of the text. -/
def ReadFault.message (f : ReadFault) : String :=
  match f.place with
  | none => f.complaint.text
  | some (m, path) =>
    (if path.isEmpty then "" else path.text ++ ": ") ++ f.complaint.text
      ++ (if m.isLater then " at " ++ m.text else "")

/-- Reads a value from a node that the path leads to. -/
abbrev Reader (α : Type) := Document → Path → Node → Except ReadFault α

/-- Places a fault that has no place yet. -/
def placed {α : Type} (m : Mark) (path : Path) (r : Except ReadFault α) : Except ReadFault α :=
  match r with
  | .error ⟨complaint, none⟩ => .error ⟨complaint, some (m, path)⟩
  | r => r

/-- The fault of a node that is not what a reader expects. -/
def mismatch {α : Type} (expected : String) (path : Path) (n : Node) : Except ReadFault α :=
  let complaint :=
    match n with
    | .scalar _ tag style text =>
      match Found.ofScalar tag style text with
      | .ok found => Complaint.invalidType found expected
      | .error wanted => .invalidValue (.string text) wanted
    | .sequence .. => .invalidType .sequence expected
    | .mapping .. => .invalidType .map expected
    | .absent _ => .stated "EOF while parsing a value"
    | .alias .. => .stated "unknown anchor"
  .error ⟨complaint, some (n.mark, path)⟩

/-- A plain scalar without characters, or no node at all: an empty collection. -/
def isEmptyPlace : Node → Bool
  | .absent _ => true
  | .scalar _ _ .plain "" => true
  | _ => false

namespace Reader

/-- The text of a scalar in any style. -/
def text (expected : String) : Reader String := fun d path n =>
  match d.resolve n with
  | .scalar _ _ _ s => .ok s
  | n => mismatch expected path n

/-- A value that plain scalars write, or literal ones with the tag of its type. -/
def plainValue {α : Type} (tag expected : String) (parse : String → Option α) : Reader α :=
  fun d path n =>
    let n := d.resolve n
    match n with
    | .scalar _ t style s =>
      if style == .plain || (style == .literal && t == some tag) then
        match parse s with
        | some x => .ok x
        | none => mismatch expected path n
      else mismatch expected path n
    | n => mismatch expected path n

/-- A truth value. -/
def bool : Reader Bool := plainValue boolTag "a boolean" bool?

/-- A number that 64 bits hold; `name` is what a message calls it. -/
def word (name : String) : Reader Nat := plainValue intTag name word?

/-- A value that may be null. -/
def optional {α : Type} (inner : Reader α) : Reader (Option α) := fun d path n =>
  let n := d.resolve n
  match n with
  | .absent _ => .ok none
  | .scalar _ none .plain s =>
    if s.isEmpty || isNull s then .ok none else (inner d path n).map some
  | .scalar _ (some tag) .plain s =>
    if tag == nullTag then
      if isNull s then .ok none else .error ⟨.invalidValue (.string s) "null", none⟩
    else (inner d path n).map some
  | _ => (inner d path n).map some

/-- Reads the items of a sequence from the one with number `i` on. -/
def items {α : Type} (inner : Reader α) (d : Document) (path : Path) :
    Nat → List Node → Except ReadFault (List α)
  | _, [] => .ok []
  | i, n :: ns => do
    let x ← inner d (.item i :: path) n
    let xs ← items inner d path (i + 1) ns
    return x :: xs

/-- A sequence. -/
def list {α : Type} (inner : Reader α) : Reader (List α) := fun d path n =>
  let n := d.resolve n
  match n with
  | .sequence m _ ns => placed m path (items inner d path 0 ns)
  | n => if isEmptyPlace n then .ok [] else mismatch "a sequence" path n

/-- One of several names, as a scalar or as a tag on nothing. -/
def variant {α : Type} (names : List (String × α)) : Reader α := fun d path n =>
  let n := d.resolve n
  let pick (name : String) (place : Option (Mark × Path)) : Except ReadFault α :=
    match names.lookup name with
    | some x => .ok x
    | none => .error ⟨.unknownVariant name (names.map Prod.fst), place⟩
  let tag := match n with
    | .scalar _ tag _ _ => tag
    | .sequence _ tag _ => tag
    | .mapping _ tag _ => tag
    | _ => none
  match tag.bind fun t => if t.startsWith "!" then some (t.toList.drop 1) else none with
  | some name => do
    let x ← pick (String.ofList name) none
    match n with
    | .scalar m _ style s =>
      if style == .plain && (s.isEmpty || isNull s) then return x
      else throw ⟨.invalidValue (.string s) "null", some (m, path)⟩
    | n => mismatch "unit" path n
  | none =>
    match n with
    | .scalar m _ _ s => pick s (some (m, path))
    | n => mismatch "a YAML tag starting with '!'" path n

/-! ## Records -/

/-- A field of a record: its name, whether it must stand, and how its value changes the record. -/
structure Field (σ : Type) where
  name : String
  required : Bool
  read : Reader (σ → σ)

/-- A field that sets one component of a record. -/
def field {σ α : Type} (name : String) (required : Bool) (inner : Reader α) (set : α → σ → σ) :
    Field σ :=
  ⟨name, required, fun d path n => (inner d path n).map set⟩

/-- The name that a key writes. -/
def keyName (d : Document) (path : Path) (key : Node) : Except ReadFault String :=
  text "field identifier" d path key

/-- The step to the value of a key: only a key that is itself a scalar gives it a name. -/
def keyStep : Node → Step
  | .scalar _ _ _ s => .key s
  | _ => .unnamed

/-- Reads the entries of a mapping in order, with the names seen so far. -/
def entries {σ : Type} (fields : List (Field σ)) (d : Document) (path : Path) :
    List String → σ → List (Node × Node) → Except ReadFault (List String × σ)
  | seen, x, [] => .ok (seen, x)
  | seen, x, (key, value) :: rest => do
    let name ← keyName d path key
    match fields.find? (·.name == name) with
    | none => entries fields d path seen x rest
    | some f =>
      if seen.contains name then throw ⟨.duplicateField name, none⟩
      let set ← f.read d (keyStep key :: path) value
      entries fields d path (name :: seen) (set x) rest

/-- Checks that the required fields have been seen. -/
def complete {σ : Type} (fields : List (Field σ)) (seen : List String) (x : σ) :
    Except ReadFault σ :=
  match fields.find? fun f => f.required && !seen.contains f.name with
  | some f => .error ⟨.missingField f.name, none⟩
  | none => .ok x

/-- A record that starts as `x`. -/
def record {σ : Type} (name : String) (fields : List (Field σ)) (x : σ) : Reader σ :=
  fun d path n =>
    let n := d.resolve n
    match n with
    | .mapping m _ pairs =>
      placed m path (do
        let (seen, y) ← entries fields d path [] x pairs
        complete fields seen y)
    | n =>
      if isEmptyPlace n then placed n.mark path (complete fields [] x)
      else mismatch ("struct " ++ name) path n

end Reader

end BrokerRelay.Yaml
