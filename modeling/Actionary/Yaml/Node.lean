import Actionary.Yaml.Problem

/-!
# Nodes of documents

A document is made of nodes: scalars, sequences, and mappings whose keys are nodes themselves. The
tag of a node says what value it stands for. A node with an anchor can be held by more than one
other node, so the nodes of a document form a graph.
-/

namespace Actionary.Yaml

/-- What a node stands for. The value of a `merge` key is merged into the map, that of a `value` key
stands for it. -/
inductive Tag where
  | null
  | bool
  | int
  | float
  | binary
  | timestamp
  | omap
  | pairs
  | set
  | str
  | seq
  | map
  | merge
  | value
  | other (text : Text)
deriving DecidableEq, Repr

def tagStart : Text := "tag:yaml.org,2002:"

namespace Tag

def named : List (Text × Tag) :=
  [("null", .null), ("bool", .bool), ("int", .int), ("float", .float), ("binary", .binary),
    ("timestamp", .timestamp), ("omap", .omap), ("pairs", .pairs), ("set", .set), ("str", .str),
    ("seq", .seq), ("map", .map), ("merge", .merge), ("value", .value)]

def ofText (text : Text) : Tag :=
  match named.find? fun p => tagStart ++ p.1 == text with
  | some (_, t) => t
  | none => .other text

def text : Tag → Text
  | .other text => text
  | t =>
    match named.find? fun p => p.2 == t with
    | some (name, _) => tagStart ++ name
    | none => ""

end Tag

/-- What a node holds. The nodes inside it are given by their numbers. -/
inductive Content where
  | scalar (text : Text)
  | sequence (items : List Nat)
  | mapping (entries : List (Nat × Nat))
deriving Repr

structure Node where
  tag : Tag
  start : Mark
  content : Content
deriving Repr

instance : Inhabited Node where
  default := ⟨.null, default, .scalar ""⟩

def Node.kind (n : Node) : NodeKind :=
  match n.content with
  | .scalar _ => .scalar
  | .sequence _ => .sequence
  | .mapping _ => .mapping

/-- The nodes of a document. A node stands behind all the nodes that it holds, and its place in the
graph is its number. -/
abbrev Graph := Array Node

def Graph.node (g : Graph) (i : Nat) : Node :=
  g.getD i default

end Actionary.Yaml
