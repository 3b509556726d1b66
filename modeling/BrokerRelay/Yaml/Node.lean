import BrokerRelay.Yaml.Token
/-!
# Nodes and documents

The tree that a document stands for. Aliases are kept as references: a document also holds the
anchored nodes, so that a reference can be followed as often as a reader wants to, also where an
anchored node contains a reference to itself.
-/

namespace BrokerRelay.Yaml

/-- A node with the place where it starts. A text without any node has an `absent` root. -/
inductive Node where
  | absent (mark : Mark)
  | alias (mark : Mark) (target : Nat)
  | scalar (mark : Mark) (tag : Option String) (style : ScalarStyle) (text : String)
  | sequence (mark : Mark) (tag : Option String) (items : List Node)
  | mapping (mark : Mark) (tag : Option String) (entries : List (Node × Node))
deriving Inhabited

/-- The place where a node starts. -/
def Node.mark : Node → Mark
  | .absent m => m
  | .alias m _ => m
  | .scalar m _ _ _ => m
  | .sequence m _ _ => m
  | .mapping m _ _ => m

/-- An anchored node: the number that aliases refer to, and how many nodes started before it. -/
structure Anchored where
  target : Nat
  order : Nat
  node : Node

/-- A document: its root and its anchored nodes. -/
structure Document where
  root : Node
  anchored : List Anchored

namespace Document

/-- The node that an alias stands for: of the nodes with that number, the one that starts last. -/
def target? (d : Document) (target : Nat) : Option Node :=
  (d.anchored.foldl (fun best a =>
    if a.target == target then
      match best with
      | some b => if b.order ≤ a.order then some a else best
      | none => some a
    else best) none).map Anchored.node

/-- A node, with an alias followed. An anchor never names an alias, so one step is enough. -/
def resolve (d : Document) (n : Node) : Node :=
  match n with
  | .alias _ target => (d.target? target).getD n
  | _ => n

end Document

end BrokerRelay.Yaml
