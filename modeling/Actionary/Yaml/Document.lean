import Actionary.Yaml.Compose
import Actionary.Yaml.Data

/-!
# From nodes to values

The value of a document. Each node is made once, however often it is held. A scalar is made at once;
a collection is made empty and filled later, level by level, so that faults of a node show before
those of the nodes inside its collections. Filling a map first merges into it what is to be merged,
in front of its own entries, so that the latter win. The merged entries stay with the node, wherever
else it is held.
-/

namespace Actionary.Yaml

/-- What was made of a node. The nodes inside a collection are given by their numbers, and of a
scalar it is known whether it is the constant that is not a number. -/
inductive Made where
  | scalar (v : Value) (constant : Bool)
  | list (items : List Nat)
  | pairs (entries : List (Nat × Nat))
  | set (entries : List (Nat × Nat))
  | map (entries : List (Nat × Nat))
deriving Repr

/-- The state of making values. Collections wait to be filled, the latest first. -/
structure Making where
  nodes : Graph
  made : Array (Option Made)
  waiting : List Nat

abbrev Make := StateT Making (Except Problem)

def Node.fail (c : Complaint) (n : Node) : Except Problem α :=
  .error (.found c n.start)

def orNoValue (v : Option α) : Except Problem α :=
  match v with
  | some a => .ok a
  | none => .error .noValue

/-- The text of a scalar. The value key of a mapping stands for the mapping. -/
def Graph.scalarText (g : Graph) : Nat → Node → Except Problem Text
  | 0, _ => .error .noValue
  | fuel + 1, n =>
    match n.content with
    | .scalar text => .ok text
    | .sequence _ => n.fail (.scalarExpected .sequence)
    | .mapping entries =>
      match entries.find? fun e => (g.node e.1).tag == .value with
      | some (_, v) => g.scalarText fuel (g.node v)
      | none => n.fail (.scalarExpected .mapping)

/-- The value of the node with a number, which is no collection. -/
def Graph.scalarValue (g : Graph) (i : Nat) : Except Problem Made := do
  let n := g.node i
  let text : Except Problem (List Code) := do
    return (← g.scalarText (g.size + 1) n).toList
  match n.tag with
  | .null =>
    let _ ← text
    return .scalar .null false
  | .bool => return .scalar (.bool (← orNoValue (boolWord? (← text)))) false
  | .int => return .scalar (.int (← orNoValue (intOf? (← text)))) false
  | .float =>
    let cs ← text
    return .scalar (.float (← orNoValue (floatOf? cs))) (isNanConstant cs)
  | .binary =>
    match bytesOf (← text) with
    | .ok v => return .scalar v false
    | .error c => n.fail c
  | .timestamp =>
    let cs ← text
    if n.kind != .scalar then .error .noValue
    return .scalar (← orNoValue (timeOf? i cs)) false
  | .str => return .scalar (.text (Text.ofList (← text))) false
  | t => n.fail (.unknownTag t.text)

namespace Make

def node (i : Nat) : Make Node := do
  return (← get).nodes.node i

def fail (c : Complaint) (n : Node) : Make α :=
  throw (.found c n.start)

def put (i : Nat) (m : Made) : Make Unit :=
  modify fun s => { s with made := s.made.setIfInBounds i (some m) }

/-- A collection before it is filled; nothing for a tag of scalars. -/
def unfilled? : Tag → Option Made
  | .seq => some (.list [])
  | .omap | .pairs => some (.pairs [])
  | .set => some (.set [])
  | .map => some (.map [])
  | _ => none

def make (i : Nat) : Make Unit := do
  let s ← get
  if (s.made.getD i none).isNone then
    match unfilled? (s.nodes.node i).tag with
    | some m =>
      put i m
      modify fun s => { s with waiting := i :: s.waiting }
    | none => put i (← s.nodes.scalarValue i)

def entries? (i : Nat) : Make (Option (List (Nat × Nat))) := do
  match (← node i).content with
  | .mapping entries => return some entries
  | _ => return none

/-- The entries of mappings to merge, those of the first mapping last. -/
def mergedItems (flatten : Nat → Make Unit) : List Nat → Make (List (Nat × Nat))
  | [] => return []
  | i :: rest => do
    if (← node i).kind != .mapping then
      let n ← node i
      fail (.mergeItem n.kind) n
    flatten i
    let own := (← entries? i).getD []
    return (← mergedItems flatten rest) ++ own

def merged (flatten : Nat → Make Unit) (i : Nat) : Make (List (Nat × Nat)) := do
  let n ← node i
  match n.content with
  | .mapping _ =>
    flatten i
    return (← entries? i).getD []
  | .sequence items => mergedItems flatten items
  | .scalar _ => fail (.mergeValue .scalar) n

/-- Takes entries apart: those to merge, and the others. A value key becomes a text. -/
def takeApart (flatten : Nat → Make Unit) :
    List (Nat × Nat) → Make (List (Nat × Nat) × List (Nat × Nat))
  | [] => return ([], [])
  | (k, v) :: rest => do
    let key ← node k
    match key.tag with
    | .merge =>
      let first ← merged flatten v
      let (others, own) ← takeApart flatten rest
      return (first ++ others, own)
    | .value =>
      modify fun s => { s with nodes := s.nodes.setIfInBounds k { key with tag := .str } }
      let (others, own) ← takeApart flatten rest
      return (others, (k, v) :: own)
    | _ =>
      let (others, own) ← takeApart flatten rest
      return (others, (k, v) :: own)

/-- Merges into a mapping what is to be merged into it, given more fuel than there are mappings
inside each other. -/
def flatten : Nat → Nat → Make Unit
  | 0, _ => throw .noValue
  | fuel + 1, i => do
    if let some entries ← entries? i then
      let (others, own) ← takeApart (flatten fuel) entries
      let n ← node i
      modify fun s => { s with
        nodes := s.nodes.setIfInBounds i { n with content := .mapping (others ++ own) } }

/-- Makes the keys and the values of a map. A collection is no key. -/
def makeEntries : List (Nat × Nat) → Make Unit
  | [] => return ()
  | (k, v) :: rest => do
    make k
    let key ← node k
    if (unfilled? key.tag).isSome then fail .unhashableKey key
    make v
    makeEntries rest

def mapEntries (i : Nat) : Make (List (Nat × Nat)) := do
  let n ← node i
  if n.kind != .mapping then fail (.mappingExpected n.kind) n
  flatten ((← get).nodes.size + 1) i
  let entries := (← entries? i).getD []
  makeEntries entries
  return entries

def makePairs : List Nat → Make (List (Nat × Nat))
  | [] => return []
  | i :: rest => do
    let n ← node i
    match n.content with
    | .mapping [(k, v)] =>
      make k
      make v
      return (k, v) :: (← makePairs rest)
    | .mapping entries => fail (.singlePairExpected entries.length) n
    | _ => fail (.pairExpected n.kind) n

def fill (i : Nat) : Make Unit := do
  let n ← node i
  match n.tag, n.content with
  | .seq, .sequence items =>
    items.forM make
    put i (.list items)
  | .seq, _ => fail (.sequenceExpected n.kind) n
  | .omap, .sequence items | .pairs, .sequence items => put i (.pairs (← makePairs items))
  | .omap, _ | .pairs, _ => fail (.pairsExpected n.kind) n
  | .set, _ => put i (.set (← mapEntries i))
  | _, _ => put i (.map (← mapEntries i))

def fillLevels : Nat → Make Unit
  | 0 => return ()
  | fuel + 1 => do
    let s ← get
    if !s.waiting.isEmpty then
      set { s with waiting := [] }
      s.waiting.reverse.forM fill
      fillLevels fuel

end Make

namespace Made

/-- Whether two scalars are one key: they are equal, or they are the constant that is not a number.
-/
def sameKey : Made → Made → Bool
  | .scalar v constant, .scalar w other => (constant && other) || v.sameKey w
  | _, _ => false

/-- Entries with a key set to a value: the key keeps its place if it is there, and comes last
otherwise. -/
def putEntry (same : Nat → Nat → Bool) (k v : Nat) : List (Nat × Nat) → List (Nat × Nat)
  | [] => [(k, v)]
  | e :: rest => if same e.1 k then (e.1, v) :: rest else e :: putEntry same k v rest

/-- Entries without repeated keys: of one key the first gives the place and the last the value. -/
def distinct (same : Nat → Nat → Bool) (entries : List (Nat × Nat)) : List (Nat × Nat) :=
  entries.foldl (fun done e => putEntry same e.1 e.2 done) []

/-- The value of what was made of a node, from the values of the nodes before it. -/
def value (same : Nat → Nat → Bool) (values : Array Value) : Made → Value
  | .scalar v _ => v
  | .list items => .list (items.map (values.getD · .null))
  | .pairs entries =>
    .list (entries.map fun e => .tuple [values.getD e.1 .null, values.getD e.2 .null])
  | .set entries => .set ((distinct same entries).map fun e => values.getD e.1 .null)
  | .map entries =>
    .map ((distinct same entries).map fun e => (values.getD e.1 .null, values.getD e.2 .null))

def oneKey (made : Array (Option Made)) (i j : Nat) : Bool :=
  i == j ||
    match made.getD i none, made.getD j none with
    | some a, some b => a.sameKey b
    | _, _ => false

/-- The values of all nodes, in their order. A node holds nodes before it only. -/
def values (made : Array (Option Made)) : Array Value :=
  made.foldl (fun values m => values.push ((m.map (value (oneKey made) values)).getD .null)) #[]

end Made

def Graph.value (g : Graph) (root : Nat) : Except Problem Value := do
  let steps : Make Unit := do
    Make.make root
    Make.fillLevels (g.size + 1)
  let (_, s) ← steps.run ⟨g, Array.replicate g.size none, []⟩
  return (Made.values s.made).getD root .null

/-- The value of the document in a text; nothing if there is no document. -/
def read (source : Source) : Except Problem Value := do
  match ← compose source with
  | none => return .null
  | some (g, root) => g.value root

end Actionary.Yaml
