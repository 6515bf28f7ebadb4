import Actionary.Yaml.Scan
import Actionary.Yaml.Schema

/-!
# From tokens to nodes

The nodes of a document from its tokens. An alias stands for the node of its anchor, and no other
node is made for it. A problem of the text is met only where a token behind it is needed.
-/

namespace Actionary.Yaml

/-- The state of composition. An anchor has no node while the node is not complete. -/
structure Composer where
  tokens : List Token
  problem : Option Problem
  handles : List (Text × Text)
  anchors : List (Text × Option Nat)
  nodes : Graph

abbrev Compose := StateT Composer (Except Problem)

namespace Compose

def peek : Compose Token := do
  let s ← get
  match s.tokens with
  | t :: _ => return t
  | [] => throw (s.problem.getD .noValue)

def next : Compose Token := do
  let t ← peek
  modify fun s => { s with tokens := s.tokens.tail }
  return t

def at? (kinds : List TokenKind) : Compose Bool := do
  return kinds.contains (← peek).kind

def fail (c : Complaint) (m : Mark) : Compose α :=
  throw (.found c m)

def add (tag : Tag) (start : Mark) (content : Content) : Compose Nat := do
  let s ← get
  set { s with nodes := s.nodes.push ⟨tag, start, content⟩ }
  return s.nodes.size

def emptyNode (m : Mark) : Compose Nat :=
  add (plainTag "") m (.scalar "")

def ownHandles : List (Text × Text) :=
  [("!", "!"), ("!!", tagStart)]

structure Properties where
  anchor : Option Text
  tag : Option Text
  start : Option Mark

def resolveTag (t : WrittenTag) (m : Mark) : Compose Text := do
  match t.handle with
  | none => return t.suffix
  | some h =>
    match (← get).handles.find? (·.1 == h) with
    | some (_, start) => return start ++ t.suffix
    | none => fail (.undefinedHandle h) m

def properties : Compose Properties := do
  let t ← peek
  match t.kind with
  | .anchor a =>
    let _ ← next
    let u ← peek
    match u.kind with
    | .tag w =>
      let _ ← next
      return ⟨some a, some (← resolveTag w u.start), some t.start⟩
    | _ => return ⟨some a, none, some t.start⟩
  | .tag w =>
    let _ ← next
    let u ← peek
    match u.kind with
    | .anchor a =>
      let _ ← next
      return ⟨some a, some (← resolveTag w t.start), some t.start⟩
    | _ => return ⟨none, some (← resolveTag w t.start), some t.start⟩
  | _ => return ⟨none, none, none⟩

/-- The tag of a collection: the written one, or the usual one. -/
def Properties.collectionTag (p : Properties) (usual : Tag) : Tag :=
  match p.tag with
  | none => usual
  | some t => if t == "!" then usual else .ofText t

/-- The tag of a scalar. Without a written tag, only a plain scalar is more than a text. -/
def Properties.scalarTag (p : Properties) (plain : Bool) (text : Text) : Tag :=
  match p.tag with
  | none => if plain then plainTag text else .str
  | some t => if t == "!" then plainTag text else .ofText t

def checkAnchor (p : Properties) (start : Mark) : Compose Unit := do
  match p.anchor with
  | none => return ()
  | some a =>
    if (← get).anchors.any (·.1 == a) then fail .secondAnchor start
    modify fun s => { s with anchors := (a, none) :: s.anchors }

def close (p : Properties) (tag : Tag) (start : Mark) (content : Content) : Compose Nat := do
  let n ← add tag start content
  if let some a := p.anchor then
    modify fun s => { s with
      anchors := s.anchors.map fun e => if e.1 == a then (a, some n) else e }
  return n

/-- The node of an alias. Values are finite trees, so an alias to a node that is still open, which
would make a value hold itself, stands for nothing. -/
def aliasNode (name : Text) (m : Mark) : Compose Nat := do
  match (← get).anchors.find? (·.1 == name) with
  | none => fail (.undefinedAlias name) m
  | some (_, some n) => return n
  | some (_, none) => emptyNode m

mutual

def node (block indentless : Bool) : Nat → Compose Nat
  | 0 => throw .noValue
  | fuel + 1 => do
    let first ← peek
    if let .alias name := first.kind then
      let _ ← next
      return ← aliasNode name first.start
    let p ← properties
    let t ← peek
    let start := p.start.getD t.start
    match t.kind, block, indentless with
    | .blockEntry, _, true =>
      checkAnchor p start
      let items ← indentlessItems fuel
      close p (p.collectionTag .seq) start (.sequence items)
    | .scalar text style, _, _ =>
      let _ ← next
      checkAnchor p start
      close p (p.scalarTag (style == .plain) text) start (.scalar text)
    | .flowSequenceStart, _, _ =>
      checkAnchor p start
      let _ ← next
      let items ← flowItems true fuel
      close p (p.collectionTag .seq) start (.sequence items)
    | .flowMappingStart, _, _ =>
      checkAnchor p start
      let _ ← next
      let entries ← flowEntries true fuel
      close p (p.collectionTag .map) start (.mapping entries)
    | .blockSequenceStart, true, _ =>
      checkAnchor p start
      let _ ← next
      let items ← blockItems fuel
      close p (p.collectionTag .seq) start (.sequence items)
    | .blockMappingStart, true, _ =>
      checkAnchor p start
      let _ ← next
      let entries ← blockEntries fuel
      close p (p.collectionTag .map) start (.mapping entries)
    | _, _, _ =>
      if p.anchor.isSome || p.tag.isSome then
        checkAnchor p start
        close p (p.scalarTag true "") start (.scalar "")
      else fail (.contentExpected t.kind.name) t.start

/-- Reads a node unless one of some tokens comes next; then the node is not written. -/
def nodeUnless (kinds : List TokenKind) (block indentless : Bool) (m : Mark) : Nat → Compose Nat
  | 0 => throw .noValue
  | fuel + 1 => do
    if ← at? kinds then return ← emptyNode m
    node block indentless fuel

def blockItems : Nat → Compose (List Nat)
  | 0 => throw .noValue
  | fuel + 1 => do
    let t ← peek
    match t.kind with
    | .blockEntry =>
      let _ ← next
      let n ← nodeUnless [.blockEntry, .blockEnd] true false t.stop fuel
      return n :: (← blockItems fuel)
    | .blockEnd =>
      let _ ← next
      return []
    | k => fail (.blockEndExpected k.name) t.start

/-- Reads the items of a block sequence that is not indented further than its key. -/
def indentlessItems : Nat → Compose (List Nat)
  | 0 => throw .noValue
  | fuel + 1 => do
    let t ← peek
    match t.kind with
    | .blockEntry =>
      let _ ← next
      let n ← nodeUnless [.blockEntry, .key, .value, .blockEnd] true false t.stop fuel
      return n :: (← indentlessItems fuel)
    | _ => return []

def valueUnless (kinds : List TokenKind) (block : Bool) : Nat → Compose Nat
  | 0 => throw .noValue
  | fuel + 1 => do
    let t ← peek
    match t.kind with
    | .value =>
      let _ ← next
      nodeUnless kinds block block t.stop fuel
    | _ => emptyNode t.start

def blockEntries : Nat → Compose (List (Nat × Nat))
  | 0 => throw .noValue
  | fuel + 1 => do
    let t ← peek
    match t.kind with
    | .key =>
      let _ ← next
      let k ← nodeUnless [.key, .value, .blockEnd] true true t.stop fuel
      let v ← valueUnless [.key, .value, .blockEnd] true fuel
      return (k, v) :: (← blockEntries fuel)
    | .blockEnd =>
      let _ ← next
      return []
    | k => fail (.blockEndExpected k.name) t.start

/-- Reads the items of a flow sequence up to its end. An item may be a mapping of one entry. -/
def flowItems (first : Bool) : Nat → Compose (List Nat)
  | 0 => throw .noValue
  | fuel + 1 => do
    let t ← peek
    if t.kind == .flowSequenceEnd then
      let _ ← next
      return []
    if !first then
      if t.kind == .flowEntry then
        let _ ← next
      else fail (.separatorExpected ']' t.kind.name) t.start
    let t ← peek
    match t.kind with
    | .key =>
      let _ ← next
      let k ← nodeUnless [.value, .flowEntry, .flowSequenceEnd] false false t.stop fuel
      let v ← valueUnless [.flowEntry, .flowSequenceEnd] false fuel
      let n ← add .map t.start (.mapping [(k, v)])
      return n :: (← flowItems false fuel)
    | .flowSequenceEnd =>
      let _ ← next
      return []
    | _ =>
      let n ← node false false fuel
      return n :: (← flowItems false fuel)

/-- Reads the entries of a flow mapping up to its end. An entry may be a key alone. -/
def flowEntries (first : Bool) : Nat → Compose (List (Nat × Nat))
  | 0 => throw .noValue
  | fuel + 1 => do
    let t ← peek
    if t.kind == .flowMappingEnd then
      let _ ← next
      return []
    if !first then
      if t.kind == .flowEntry then
        let _ ← next
      else fail (.separatorExpected '}' t.kind.name) t.start
    let t ← peek
    match t.kind with
    | .key =>
      let _ ← next
      let k ← nodeUnless [.value, .flowEntry, .flowMappingEnd] false false t.stop fuel
      let v ← valueUnless [.flowEntry, .flowMappingEnd] false fuel
      return (k, v) :: (← flowEntries false fuel)
    | .flowMappingEnd =>
      let _ ← next
      return []
    | _ =>
      let k ← node false false fuel
      let v ← emptyNode (← peek).start
      return (k, v) :: (← flowEntries false fuel)

end

def skipDocumentEnds : Nat → Compose Unit
  | 0 => return ()
  | fuel + 1 => do
    if ← at? [.documentEnd] then
      let _ ← next
      skipDocumentEnds fuel

/-- The directives in front of a document, given the version read before. -/
def directives (version : Bool) : Nat → Compose Unit
  | 0 => return ()
  | fuel + 1 => do
    let t ← peek
    match t.kind with
    | .version major _ =>
      let _ ← next
      if version then fail .duplicateVersion t.start
      if major != 1 then fail .incompatibleVersion t.start
      directives true fuel
    | .handle name start =>
      let _ ← next
      if (← get).handles.any (·.1 == name) then fail (.duplicateHandle name) t.start
      modify fun s => { s with handles := s.handles ++ [(name, start)] }
      directives version fuel
    | .directive =>
      let _ ← next
      directives version fuel
    | _ =>
      modify fun s => { s with
        handles := s.handles ++ ownHandles.filter fun h => !s.handles.any (·.1 == h.1) }

/-- The start of a document with its mark, or none at the end of the text. -/
def documentStart : Compose (Option Mark) := do
  let count := (← get).tokens.length
  skipDocumentEnds count
  let t ← peek
  if t.kind == .streamEnd then return none
  modify fun s => { s with handles := [] }
  directives false count
  let u ← peek
  if u.kind == .documentStart then
    let _ ← next
    return some t.start
  else fail (.documentStartExpected u.kind.name) u.start

/-- Whether a token cannot be part of the content of a document. -/
def endsContent (k : TokenKind) : Bool :=
  k.isDirective || k == .documentStart || k == .documentEnd || k == .streamEnd

/-- The content of a document and the end of it; there must be no second document. -/
def content (explicit : Bool) : Compose Nat := do
  let t ← peek
  let fuel := 4 * (← get).tokens.length + 4
  let n ← if explicit && endsContent t.kind then emptyNode t.start else node true false fuel
  if ← at? [.documentEnd] then
    let _ ← next
  match ← documentStart with
  | none => return n
  | some m => fail .anotherDocument m

/-- The node of the document in the tokens, if there is a document. -/
def document : Compose (Option Nat) := do
  let _ ← next
  let t ← peek
  if t.kind.isDirective || t.kind == .documentStart || t.kind == .streamEnd then
    match ← documentStart with
    | none => return none
    | some _ => return some (← content true)
  else
    modify fun s => { s with handles := ownHandles }
    return some (← content false)

end Compose

/-- The nodes of the document in a text with the number of the outermost one, if there is a
document. -/
def compose (source : Source) : Except Problem (Option (Graph × Nat)) := do
  let stream := scan source
  let (root, s) ← Compose.document.run ⟨stream.tokens, stream.problem, [], [], #[]⟩
  return root.map fun n => (s.nodes, n)

end Actionary.Yaml
