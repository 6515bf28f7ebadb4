import Actionary.Number.Numeral
import Actionary.Value
import Actionary.Yaml.Base64
import Actionary.Yaml.Schema
import Actionary.Yaml.Token

/-!
# What is written for a value

A value is written as an outline: scalars, each with the texts of its tag and of itself, and block
collections of them. A scalar is written without quotes where it reads back as the same value.
-/

namespace Actionary.Yaml

/-- An outline of a value. The tag is written unless it is the usual one. Scalars of one origin are
written once. -/
inductive Outline where
  | scalar (tag : Text) (text : List Code) (plainReads quotedReads block : Bool)
    (origin : Option Nat)
  | sequence (tag : Text) (usual : Bool) (items : List Outline)
  | mapping (tag : Text) (usual : Bool) (entries : List (Outline × Outline))

/-- The name under which a value without a written form appears. -/
def unwritable : Text := "<runtime object>"

/-- A value of which only what can be written is left: collections become lists, and what has no
written form is replaced by a text. The keys of maps stay as they are. -/
def writable : Value → Value
  | .list items => .list (all items)
  | .tuple items => .list (all items)
  | .set items => .list (all items)
  | .map entries => .map (allEntries entries)
  | .date _ _ | .moment _ _ | .object => .text unwritable
  | v => v
where
  all : List Value → List Value
    | [] => []
    | v :: vs => writable v :: all vs
  allEntries : List (Value × Value) → List (Value × Value)
    | [] => []
    | (k, v) :: rest => (k, writable v) :: allEntries rest

def isLong (n : Int) : Bool :=
  Nat.pow 10 Numeral.mostDigits ≤ n.natAbs

def canWrite : Value → Bool
  | .int n => !isLong n
  | .list items | .tuple items | .set items => canWriteAll items
  | .map entries => canWriteEntries entries
  | _ => true
where
  canWriteAll : List Value → Bool
    | [] => true
    | v :: vs => canWrite v && canWriteAll vs
  canWriteEntries : List (Value × Value) → Bool
    | [] => true
    | (k, v) :: rest => canWrite k && canWrite v && canWriteEntries rest

namespace Outline

def ofScalar (tag : Tag) (name : Text) (text : Text) (block : Bool) : Outline :=
  .scalar ("!!" ++ name) text.toList (plainTag text == tag) (tag == .str) block none

def ofTime (text : Text) (origin : Option Nat) : Outline :=
  .scalar "!!timestamp" text.toList (plainTag text == .timestamp) false false origin

def floatText (x : Binary64) : Text :=
  match x with
  | .nan => ".nan"
  | .infinite negative => if negative then "-.inf" else ".inf"
  | x =>
    let s : Text := x.text
    if s.toList.contains (.char '.') || !s.toList.contains (.char 'e') then s
    else
      let mantissa := s.toList.takeWhile (· != Code.char 'e')
      Text.ofList (mantissa ++ Text.toList ".0" ++ s.toList.drop mantissa.length)

def ofValue : Value → Outline
  | .null => ofScalar .null "null" "null" false
  | .bool b => ofScalar .bool "bool" (if b then "true" else "false") false
  | .int n => ofScalar .int "int" (toString n) false
  | .float x => ofScalar .float "float" (floatText x) false
  | .text s => ofScalar .str "str" s false
  | .bytes b => ofScalar .binary "binary" (Text.ofList (Base64.encodeLines b)) true
  | .date d origin => ofTime d.text origin
  | .moment m origin => ofTime m.text origin
  | .list items => .sequence "!!seq" true (ofValues items)
  | .set items => .mapping "!!set" false (ofMembers items)
  | .tuple items => .sequence "!!python/tuple" false (ofValues items)
  | .map entries => .mapping "!!map" true (ofEntries entries)
  | .object => .mapping "!!python/object:builtins.object" false []
where
  ofValues : List Value → List Outline
    | [] => []
    | v :: vs => ofValue v :: ofValues vs
  ofMembers : List Value → List (Outline × Outline)
    | [] => []
    | v :: vs => (ofValue v, ofScalar .null "null" "null" false) :: ofMembers vs
  ofEntries : List (Value × Value) → List (Outline × Outline)
    | [] => []
    | (k, v) :: rest => (ofValue k, ofValue v) :: ofEntries rest

def origins : Outline → List Nat
  | .scalar _ _ _ _ _ origin => origin.toList
  | .sequence _ _ items => itemOrigins items
  | .mapping _ _ entries => entryOrigins entries
where
  itemOrigins : List Outline → List Nat
    | [] => []
    | o :: os => origins o ++ itemOrigins os
  entryOrigins : List (Outline × Outline) → List Nat
    | [] => []
    | (k, v) :: rest => origins k ++ origins v ++ entryOrigins rest

/-- What comes more than once in a list, after some others, in the order in which it comes again. -/
def repeatedAfter (seen found : List Nat) : List Nat → List Nat
  | [] => found
  | n :: ns =>
    if !seen.contains n then repeatedAfter (n :: seen) found ns
    else if found.contains n then repeatedAfter seen found ns
    else repeatedAfter seen (found ++ [n]) ns

def repeated (o : Outline) : List Nat :=
  repeatedAfter [] [] o.origins

end Outline

structure Analysis where
  multiline : Bool
  plain : Bool
  single : Bool
  block : Bool
deriving DecidableEq, Repr

/-- Whether a character counts as a line break in a scalar to write. -/
def isWrittenBreak (c : Code) : Bool :=
  c == '\n' || c == '\x85' || c == '\u2028' || c == '\u2029'

def isOrdinary (c : Code) : Bool :=
  c == '\n' || (' ' ≤ c && c ≤ '~')

def badStart (c following : Code) : Bool :=
  (Text.toList "#,[]{}&*!|>'\"%@`").contains c ||
    ((c == '?' || c == ':' || c == '-') && isGap following)

/-- Whether a plain scalar cannot go on with a character between two others. -/
def badInside (previous c following : Code) : Bool :=
  (c == ':' && isGap following) || (c == '#' && isGap previous)

/-- Whether a character inside a plain scalar would end it, the character before it being given. -/
def hasBadInside : Code → List Code → Bool
  | _, [] => false
  | previous, c :: cs => badInside previous c (cs.headD endChar) || hasBadInside c cs

def hasPair (p q : Code → Bool) : List Code → Bool
  | c :: d :: cs => (p c && q d) || hasPair p q (d :: cs)
  | _ => false

def analyzeFrom (first : Code) (others : List Code) : Analysis :=
  let cs := first :: others
  let last := cs.getLastD first
  let separator := cs.take 3 == Text.toList "---" || cs.take 3 == Text.toList "..."
  let indicators :=
    separator || badStart first (others.headD endChar) || hasBadInside first others
  let breaks := cs.any isWrittenBreak
  let special := cs.any (!isOrdinary ·)
  let edge := first == ' ' || isWrittenBreak first || last == ' ' || isWrittenBreak last
  let breakSpace := hasPair isWrittenBreak (· == ' ') cs
  let spaceBreak := hasPair (· == ' ') isWrittenBreak cs
  { multiline := breaks
    plain := !(edge || breakSpace || spaceBreak || special || breaks || indicators)
    single := !(breakSpace || spaceBreak || special)
    block := !(last == ' ' || spaceBreak || special) }

def analyze : List Code → Analysis
  | [] => ⟨false, true, true, false⟩
  | c :: cs => analyzeFrom c cs

def writtenStyle (text : List Code) (plainReads block simpleKey : Bool) : ScalarStyle :=
  let a := analyze text
  if !block && plainReads && a.plain && !(simpleKey && (text.isEmpty || a.multiline)) then .plain
  else if block && a.block && !simpleKey then .block
  else if !block && a.single && !(simpleKey && a.multiline) then .single
  else .double

end Actionary.Yaml
