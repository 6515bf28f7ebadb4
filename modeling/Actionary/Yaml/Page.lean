import Actionary.Yaml.Outline

/-!
# Writing outlines

Lays an outline out as text, in block style: entries of a mapping on lines of their own, items of a
sequence under dashes that stand at the indentation of the key above them. Long scalars break at
spaces behind the eightieth column. A time that comes more than once is written once, with an
anchor.
-/

namespace Actionary.Yaml

/-- A text being written. The last line is `fresh` while it holds indentation only, and a document
that is `openEnded` must be ended by a mark. The origins with an anchor are kept in the order of the
anchors. -/
structure Page where
  text : Text
  column : Nat
  blank : Bool
  fresh : Bool
  openEnded : Bool
  anchored : List Nat
  written : List Nat

abbrev Write := StateM Page

/-- By how much a collection is indented. -/
def indentStep : Nat := 2

/-- The column behind which scalars break. -/
def bestWidth : Nat := 80

/-- The greatest length of a key on one line with its value, its tag included. -/
def keyLimit : Nat := 128

namespace Page

def put (cs : List Code) : Write Unit :=
  modify fun p => { p with text := p.text ++ Text.ofList cs, column := p.column + cs.length }

def lineBreak (c : Code) : Write Unit :=
  modify fun p =>
    { p with text := p.text ++ .singleton c, column := 0, blank := true, fresh := true }

/-- Adds a mark, with a blank in front of it where one is needed. -/
def mark (s : Text) (needsBlank : Bool) (blank fresh : Bool) : Write Unit := do
  let p ← get
  if needsBlank && !p.blank then put [' ']
  put s.toList
  modify fun p => { p with blank := blank, fresh := p.fresh && fresh, openEnded := false }

/-- Moves to an indentation, on a new line if the last one holds anything else. -/
def indent (n : Nat) : Write Unit := do
  let p ← get
  if !p.fresh || p.column > n || (p.column == n && !p.blank) then lineBreak '\n'
  let p ← get
  if p.column < n then
    put (List.replicate (n - p.column) ' ')
    modify fun p => { p with blank := true }

def notBlank : Write Unit :=
  modify fun p => { p with blank := false, fresh := false }

/-- The characters of one kind at the start of a text, and the rest. -/
def splitRun (test : Code → Bool) (cs : List Code) : List Code × List Code :=
  (cs.takeWhile test, cs.dropWhile test)

/-- Writes the words of a plain scalar. A single blank behind the last column becomes a line break.
-/
def plainWords (split : Bool) (n : Nat) : Nat → List Code → Write Unit
  | 0, _ => pure ()
  | fuel + 1, cs =>
    if cs.isEmpty then pure ()
    else do
      let (word, rest) := splitRun (· != ' ') cs
      put word
      let (spaces, rest) := splitRun (· == ' ') rest
      if spaces.length == 1 && (← get).column > bestWidth && split then
        indent n
        notBlank
      else put spaces
      plainWords split n fuel rest

def plain (root split : Bool) (n : Nat) (cs : List Code) : Write Unit := do
  if root then modify fun p => { p with openEnded := true }
  if !cs.isEmpty then
    if !(← get).blank then put [' ']
    notBlank
    plainWords split n (cs.length + 1) cs

/-- A part of a scalar between single quotes, with the quotes in it doubled. -/
def doubleQuotes : List Code → List Code
  | [] => []
  | c :: cs => if c == '\'' then '\'' :: '\'' :: doubleQuotes cs else c :: doubleQuotes cs

/-- Writes what stands between single quotes. A line break is written twice in a row, and a single
blank behind the last column, not at either end, becomes one. -/
def singleParts (split : Bool) (n : Nat) : Nat → Bool → List Code → Write Unit
  | 0, _, _ => pure ()
  | fuel + 1, first, cs =>
    match cs with
    | [] => pure ()
    | c :: _ =>
      if c == ' ' then do
        let (spaces, rest) := splitRun (· == ' ') cs
        if spaces.length == 1 && (← get).column > bestWidth && split && !first && !rest.isEmpty then
          indent n
        else put spaces
        singleParts split n fuel false rest
      else if isWrittenBreak c then do
        let (breaks, rest) := splitRun isWrittenBreak cs
        if c == '\n' then lineBreak '\n'
        breaks.forM lineBreak
        indent n
        singleParts split n fuel false rest
      else do
        let (word, rest) := splitRun (fun c => c != ' ' && !isWrittenBreak c) cs
        put (doubleQuotes word)
        singleParts split n fuel false rest

def single (split : Bool) (n : Nat) (cs : List Code) : Write Unit := do
  mark "'" true false false
  singleParts split n (cs.length + 1) true cs
  mark "'" false false false

def escapeLetter? : Code → Option Code
  | '\x00' => some '0'
  | '\x07' => some 'a'
  | '\x08' => some 'b'
  | '\t' => some 't'
  | '\n' => some 'n'
  | '\x0b' => some 'v'
  | '\x0c' => some 'f'
  | '\r' => some 'r'
  | '\x1b' => some 'e'
  | '"' => some '"'
  | '\\' => some '\\'
  | '\x85' => some 'N'
  | '\xa0' => some '_'
  | '\u2028' => some 'L'
  | '\u2029' => some 'P'
  | _ => none

def capitalHex (width n : Nat) : List Code :=
  (Text.hexPadded width n).map Code.toUpper

/-- The written form of a character that cannot stand for itself between double quotes. -/
def escape? (c : Code) : Option (List Code) :=
  if c != '"' && c != '\\' && ' ' ≤ c && c ≤ '~' then none
  else
    match escapeLetter? c with
    | some l => some ['\\', l]
    | none =>
      let n := c.toNat
      if n ≤ 0xFF then some ('\\' :: 'x' :: capitalHex 2 n)
      else if n ≤ 0xFFFF then some ('\\' :: 'u' :: capitalHex 4 n)
      else some ('\\' :: 'U' :: capitalHex 8 n)

/-- Breaks a double-quoted scalar; a blank that follows is kept by a backslash. -/
def breakDouble (n : Nat) (pending : List Code) (following : Code) : Write Unit := do
  put (pending ++ [.char '\\'])
  indent n
  notBlank
  if following == ' ' then put ['\\']

/-- Writes what stands between double quotes. `pending` holds the characters that are read but not
yet written, latest first. A scalar can break in front of a blank, and on either side of an escape.
-/
def doubleParts (split : Bool) (n : Nat) (pending : List Code) (first : Bool) :
    List Code → Write Unit
  | [] => put pending.reverse
  | c :: rest => do
    let inner := !first && !rest.isEmpty
    match escape? c with
    | some written =>
      put pending.reverse
      put written
      if inner && (← get).column > bestWidth + 1 && split then
        breakDouble n [] (rest.headD endChar)
      doubleParts split n [] false rest
    | none =>
      if inner && (c == ' ' || pending.isEmpty) &&
          (← get).column + pending.length > bestWidth && split then
        breakDouble n pending.reverse c
        doubleParts split n [c] false rest
      else doubleParts split n (c :: pending) false rest

def double (split : Bool) (n : Nat) (cs : List Code) : Write Unit := do
  mark "\"" true false false
  doubleParts split n [] true cs
  mark "\"" false false false

def blockLines (n : Nat) : Nat → List Code → Write Unit
  | 0, _ => pure ()
  | fuel + 1, cs =>
    if cs.isEmpty then pure ()
    else do
      let (line, rest) := splitRun (· != '\n') cs
      indent n
      put line
      lineBreak '\n'
      blockLines n fuel (rest.drop 1)

/-- Writes a scalar as a block of lines that ends in one line break. -/
def block (n : Nat) (cs : List Code) : Write Unit := do
  mark "|" true false false
  lineBreak '\n'
  blockLines n (cs.length + 1) cs

structure Context where
  root : Bool
  inMapping : Bool
  simpleKey : Bool
  indent : Option Nat

def deeper : Option Nat → Nat
  | none => 0
  | some n => n + indentStep

def anchorName (n : Nat) : Text :=
  let digits := toString (n + 1)
  "id" ++ Text.ofList (List.replicate (3 - digits.length) '0') ++ digits

/-- Writes the anchor of a scalar that comes more than once, or the alias in its place if it is
written; says whether the scalar itself is still to be written. -/
def anchor (origin : Option Nat) : Write Bool := do
  let p ← get
  match origin.bind fun n => (p.anchored.idxOf? n).map fun i => (n, anchorName i) with
  | none => return true
  | some (n, name) =>
    if p.written.contains n then
      mark ("*" ++ name) true false false
      return false
    else
      mark ("&" ++ name) true false false
      modify fun p => { p with written := n :: p.written }
      return true

def scalar (k : Context) (tag : Text) (text : List Code) (plainReads quotedReads isBlock : Bool) :
    Write Unit := do
  let style := writtenStyle text plainReads isBlock k.simpleKey
  let reads := if style == .plain then plainReads else quotedReads
  if !reads then mark tag true false false
  let n :=
    match k.indent with
    | none => indentStep
    | some n => n + indentStep
  let split := !k.simpleKey
  match style with
  | .plain => plain k.root split n text
  | .single => single split n text
  | .double => double split n text
  | .block => block n text

def isSimpleKey : Outline → Bool
  | .scalar tag text _ _ _ _ =>
    tag.length + text.length < keyLimit && !text.isEmpty && !(analyze text).multiline
  | .sequence tag _ items => tag.length < keyLimit && items.isEmpty
  | .mapping tag _ entries => tag.length < keyLimit && entries.isEmpty

def write (k : Context) : Outline → Write Unit
  | .scalar tag text plainReads quotedReads isBlock origin => do
    if ← anchor origin then scalar k tag text plainReads quotedReads isBlock
  | .sequence tag usual items => do
    if !usual then mark tag true false false
    if items.isEmpty then
      mark "[" true true false
      mark "]" false false false
    else
      let flat := k.inMapping && !(← get).fresh
      let n := if flat then k.indent.getD 0 else deeper k.indent
      writeItems n items
  | .mapping tag usual entries => do
    if !usual then mark tag true false false
    if entries.isEmpty then
      mark (.singleton '{') true true false
      mark (.singleton '}') false false false
    else writeEntries (deeper k.indent) entries
where
  writeItems (n : Nat) : List Outline → Write Unit
    | [] => pure ()
    | o :: os => do
      indent n
      mark "-" true false true
      write ⟨false, false, false, some n⟩ o
      writeItems n os
  writeEntries (n : Nat) : List (Outline × Outline) → Write Unit
    | [] => pure ()
    | (key, value) :: rest => do
      indent n
      if isSimpleKey key then
        write ⟨false, true, true, some n⟩ key
        mark ":" false false false
      else
        mark "?" true false true
        write ⟨false, true, false, some n⟩ key
        indent n
        mark ":" true false true
      write ⟨false, true, false, some n⟩ value
      writeEntries n rest

def document (o : Outline) : Write Unit := do
  write ⟨true, false, false, none⟩ o
  indent 0
  if (← get).openEnded then
    mark "..." true false false
    indent 0

end Page

def write (v : Value) : Text :=
  let o := Outline.ofValue (writable v)
  ((Page.document o).run ⟨"", 0, true, true, false, o.repeated, []⟩).2.text

end Actionary.Yaml
