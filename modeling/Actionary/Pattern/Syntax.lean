import Actionary.Pattern.Match
import Actionary.Pattern.Source
import Actionary.Text.CharacterName

/-!
# Written patterns

Reads the written form of a pattern. Letters stand for themselves; the characters `. ^ $ * + ? { [ \
| ( )` have the usual meanings, groups may be named, and flags may be set for the whole pattern at
its start or for a group. A pattern that breaks a rule of the notation is refused as a whole.

What alternatives have in common at their start is taken out of the choice, and a choice between
single characters is a set of characters.
-/

namespace Actionary.Pattern

open Actionary.Text

/-- A part of a sequence. Alternatives can have a single step in common. -/
structure Piece where
  single : Bool
  expr : Expr
deriving DecidableEq

namespace Piece

def sequence (pieces : List Piece) : Expr :=
  .seqAll (pieces.map (·.expr))

/-- What an alternative and all others have in common at their start, and what is left of them. -/
def common : List Piece → List (List Piece) → List Piece × List (List Piece)
  | [], others => ([], [] :: others)
  | p :: ps, others =>
    if p.single && others.all (fun o => o.head? == some p) then
      let (shared, left) := common ps (others.map List.tail)
      (p :: shared, left)
    else ([], (p :: ps) :: others)

/-- The members of a set that an alternative of one character stands for. -/
def members? : List Piece → Option (List Item)
  | [⟨true, .one (.char false _ n)⟩] => some [.point n]
  | [⟨true, .one (.set false _ items)⟩] => some items
  | _ => none

/-- The members of the set that a choice between single characters stands for. -/
def allMembers? : List (List Piece) → Option (List Item)
  | [] => some []
  | a :: rest => do
    let items ← members? a
    let others ← allMembers? rest
    return items ++ others

def choice (mode : Mode) : List (List Piece) → List Piece
  | [] => []
  | [a] => a
  | a :: others =>
    let (shared, left) := common a others
    match allMembers? left with
    | some items => shared ++ [⟨true, .one (mode.setTest false items.eraseDups)⟩]
    | none => shared ++ [⟨false, .altAll (left.map sequence)⟩]

end Piece

/-- What a repetition sign finds before it. Conditions on the place and repetitions cannot be
repeated. -/
inductive TermKind where
  | anchor
  | repeated
  | free
deriving DecidableEq, Repr

structure Term where
  kind : TermKind
  pieces : List Piece

namespace Term

def step (e : Expr) : Term :=
  ⟨.free, [⟨true, e⟩]⟩

def place (a : Anchor) : Term :=
  ⟨.anchor, [⟨true, .anchor a⟩]⟩

def whole (e : Expr) : Term :=
  ⟨.free, [⟨false, e⟩]⟩

def char (mode : Mode) (n : Nat) : Term :=
  step (.one (mode.charTest false n))

def expr (t : Term) : Expr :=
  Piece.sequence t.pieces

/-- The parts of the sequence of terms, which are given latest first. -/
def allPieces (terms : List Term) : List Piece :=
  terms.reverse.flatMap (·.pieces)

end Term

namespace Reading

def namedClass? (mode : Mode) : Code → Option Item
  | 'd' => some (.named .digit mode.ascii false)
  | 'D' => some (.named .digit mode.ascii true)
  | 's' => some (.named .blank mode.ascii false)
  | 'S' => some (.named .blank mode.ascii true)
  | 'w' => some (.named .word mode.ascii false)
  | 'W' => some (.named .word mode.ascii true)
  | _ => none

def control? : Code → Option Nat
  | 'a' => some 7
  | 'b' => some 8
  | 'f' => some 12
  | 'n' => some 10
  | 'r' => some 13
  | 't' => some 9
  | 'v' => some 11
  | _ => none

def namedPoint : Reading Nat := do
  expect '{'
  match (Code.chars? (← name '}')).bind characterNamed? with
  | some n => return n
  | none => malformed

/-- A code point that a letter after a backslash and hexadecimal digits or a name write, or a
character that is no ASCII letter. -/
def codePoint (c : Code) : Reading Nat := do
  match c with
  | 'x' => hexadecimal 2
  | 'u' => hexadecimal 4
  | 'U' =>
    let n ← hexadecimal 8
    if n < 0x110000 then return n else malformed
  | 'N' => namedPoint
  | c => if c.isAlpha || isAsciiDigit c then malformed else return c.toNat

def setEscape (mode : Mode) (c : Code) : Reading Item := do
  if let some n := control? c then return .point n
  if let some i := namedClass? mode c then return i
  if isDigitOf 8 c then
    let n := numberOf 8 (c :: (← takeWhile (isDigitOf 8) 2))
    if n < 256 then return .point n else malformed
  return .point (← codePoint c)

/-- A digit that is not zero after a backslash: a code point of three octal digits, or a group. -/
def digitEscape (mode : Mode) (c : Code) : Reading Term := do
  match ← peek with
  | some (.plain d) =>
    if !isAsciiDigit d then return .step (← again mode (numberOf 10 [c]))
    let _ ← next
    match ← peek with
    | some (.plain e) =>
      if isDigitOf 8 c && isDigitOf 8 d && isDigitOf 8 e then
        let _ ← next
        let n := numberOf 8 [c, d, e]
        if n < 256 then return .char mode n else malformed
      return .step (← again mode (numberOf 10 [c, d]))
    | _ => return .step (← again mode (numberOf 10 [c, d]))
  | _ => return .step (← again mode (numberOf 10 [c]))

def escape (mode : Mode) (c : Code) : Reading Term := do
  match c with
  | 'A' => return .place .textStart
  | 'Z' => return .place .textEnd
  | 'b' => return .place (.boundary mode.ascii)
  | 'B' => return .place (.inside mode.ascii)
  | '0' => return .char mode (numberOf 8 (← takeWhile (isDigitOf 8) 2))
  | c =>
    if let some i := namedClass? mode c then return .step (.one (mode.setTest false [i]))
    if let some n := control? c then return .char mode n
    if isAsciiDigit c then digitEscape mode c
    else return .char mode (← codePoint c)

def setItem (mode : Mode) : Glyph → Reading Item
  | .plain c => return .point c.toNat
  | .escaped c => setEscape mode c
  | .dangling => malformed

/-- The members of a set up to its closing bracket, which cannot be the first character. -/
def setItems (mode : Mode) : Nat → List Item → Reading (List Item)
  | 0, _ => malformed
  | fuel + 1, items => do
    match ← next with
    | none => malformed
    | some g =>
      if g == .plain ']' && !items.isEmpty then return items
      let first ← setItem mode g
      if ← accept '-' then
        match ← next with
        | none => malformed
        | some h =>
          if h == .plain ']' then return items ++ [first, .point 45]
          match first, ← setItem mode h with
          | .point m, .point n =>
            if n < m then malformed
            setItems mode fuel (items ++ [.range m n])
          | _, _ => malformed
      else setItems mode fuel (items ++ [first])

def charSet (mode : Mode) : Reading Term := do
  let negated ← accept '^'
  let items ← setItems mode ((← get).rest.length + 1) []
  return .step (.one (mode.writtenSet negated items))

/-- In which order the lengths of a repetition are tried, by the sign after it. -/
def repetitionSuffix : Reading Greed := do
  if ← accept '?' then return .reluctant
  if ← accept '+' then return .possessive
  return .greedy

def repeatLast (mode : Mode) (least : Nat) (most : Option Nat) : List Term → Reading (List Term)
  | [] => malformed
  | t :: terms => do
    if t.kind != .free then malformed
    if mode.fixed then flaw
    let greed ← repetitionSuffix
    return ⟨.repeated, [⟨false, .repeated greed least most t.expr⟩]⟩ :: terms

def isSkipped (c : Code) : Bool :=
  c == ' ' || c == '\t' || c == '\n' || c == '\r' || c == '\x0b' || c == '\x0c'

/-- The condition on what stands before the cursor. Its pattern has to take a fixed number of
characters, which is looked at last. -/
def behind (negated : Bool) (body : Expr) : Reading Expr := do
  match (body.width (← get).widths).fixed? with
  | some n => return .behind negated n body
  | none =>
    flaw
    return .fail

mutual

/-- Reads alternatives up to the end or a closing parenthesis. At the outer level the flags of the
whole pattern may be set before anything else. -/
def alternatives (outer : Bool) : Nat → Mode → Bool → Reading (List (List Piece))
  | 0, _, _ => malformed
  | fuel + 1, mode, first => do
    let pieces := Term.allPieces (← terms fuel mode first [])
    if ← accept '|' then
      let shared := (← get).mode
      let others ← alternatives outer fuel (if outer then shared else mode) false
      return pieces :: others
    else return [pieces]

def terms : Nat → Mode → Bool → List Term → Reading (List Term)
  | 0, _, _, _ => malformed
  | fuel + 1, mode, first, done => do
    match ← peek with
    | none => return done
    | some .dangling => malformed
    | some (.plain '|') => return done
    | some (.plain ')') => return done
    | some (.escaped c) =>
      let _ ← next
      let t ← escape mode c
      terms fuel mode first (t :: done)
    | some (.plain c) =>
      let _ ← next
      if mode.spaced && isSkipped c then terms fuel mode first done
      else if mode.spaced && c == '#' then
        leave (skipLine (← get).rest)
        terms fuel mode first done
      else
        match c with
        | '[' =>
          let t ← charSet mode
          terms fuel mode first (t :: done)
        | '?' => terms fuel mode first (← repeatLast mode 0 (some 1) done)
        | '*' => terms fuel mode first (← repeatLast mode 0 none done)
        | '+' => terms fuel mode first (← repeatLast mode 1 none done)
        | '{' =>
          match ← braceBounds with
          | none => terms fuel mode first (.char mode c.toNat :: done)
          | some (least, most) => terms fuel mode first (← repeatLast mode least most done)
        | '.' =>
          terms fuel mode first (.step (.one (if mode.dotAll then .any else .sameLine)) :: done)
        | '^' =>
          terms fuel mode first (.place (if mode.everyLine then .lineStart else .textStart) :: done)
        | '$' =>
          terms fuel mode first (.place (if mode.everyLine then .lineEnd else .lastLineEnd) :: done)
        | '(' =>
          if ← accept '?' then extension fuel mode first done
          else
            let e ← captured fuel mode none
            terms fuel mode first (.whole e :: done)
        | c => terms fuel mode first (.char mode c.toNat :: done)

/-- Reads the inner part of a group and its closing parenthesis. -/
def inner : Nat → Mode → Reading (List Piece)
  | 0, _ => malformed
  | fuel + 1, mode => do
    let choices ← alternatives false fuel mode false
    expect ')'
    return Piece.choice mode choices

def captured : Nat → Mode → Option (List Code) → Reading Expr
  | 0, _, _ => malformed
  | fuel + 1, mode, groupName => do
    let group ← openGroup groupName
    let body := Piece.sequence (← inner fuel mode)
    closeGroup group body
    return .capture group body

/-- Reads what follows an opening parenthesis and a question mark, and the rest of the sequence. -/
def extension : Nat → Mode → Bool → List Term → Reading (List Term)
  | 0, _, _, _ => malformed
  | fuel + 1, mode, first, done => do
    match ← next with
    | some (.plain ':') =>
      let pieces ← inner fuel mode
      terms fuel mode first (⟨.free, pieces⟩ :: done)
    | some (.plain '>') =>
      let body := Piece.sequence (← inner fuel mode)
      terms fuel mode first (.whole (.atomic body) :: done)
    | some (.plain '#') =>
      match skipComment (← get).rest with
      | none => malformed
      | some rest =>
        leave rest
        terms fuel mode first done
    | some (.plain '=') =>
      let body := Piece.sequence (← inner fuel mode)
      terms fuel mode first (.whole (.ahead false body) :: done)
    | some (.plain '!') =>
      let body := Piece.sequence (← inner fuel mode)
      terms fuel mode first (.whole (.ahead true body) :: done)
    | some (.plain '<') =>
      let wanted ← accept '='
      unless wanted do expect '!'
      let enclosing := (← get).behindFrom
      modify fun s => { s with behindFrom := some (enclosing.getD s.groups.length) }
      let body := Piece.sequence (← inner fuel mode)
      modify fun s => { s with behindFrom := enclosing }
      let e ← behind (!wanted) body
      terms fuel mode first (.whole e :: done)
    | some (.plain 'P') =>
      if ← accept '<' then
        let n ← name '>'
        if !isIdentifier n then malformed
        let e ← captured fuel mode (some n)
        terms fuel mode first (.whole e :: done)
      else if ← accept '=' then
        let n ← name ')'
        match (← get).names.find? (·.1 == n) with
        | none => malformed
        | some (_, group) =>
          let e ← again mode group
          terms fuel mode first (.step e :: done)
      else malformed
    | some (.plain '(') =>
      let group ← conditionGroup
      let yes := Piece.sequence (Term.allPieces (← terms fuel mode false []))
      let divided ← accept '|'
      let no ← if divided then terms fuel mode false [] else pure []
      expect ')'
      terms fuel mode first
        (.whole (.ifCaptured group yes (Piece.sequence (Term.allPieces no))) :: done)
    | some g =>
      modify fun s => { s with rest := g :: s.rest }
      match ← flags mode with
      | .whole letters changed =>
        if !first || !done.isEmpty then malformed
        modify fun s => { s with mode := changed, letters := letters ++ s.letters }
        terms fuel changed first done
      | .group changed =>
        let body := Piece.sequence (← inner fuel changed)
        terms fuel mode first (.whole body :: done)
    | none => malformed

end

/-- Reads a whole pattern. What is looked at last: the choice of the named classes, then whether all
was read, the groups that conditions ask for, and flaws. -/
def all : Reading Expr := do
  let s ← get
  leave s.rest
  let choices ← alternatives true (4 * s.rest.length + 4) s.mode true
  let s ← get
  if s.letters.contains 'a' && s.letters.contains 'u' then throw .mixedClasses
  if !s.rest.isEmpty || s.tested.any (· > s.groups.length) || s.flawed then malformed
  return Piece.sequence (Piece.choice s.mode choices)

end Reading

/-- A written pattern that was read, with the characters that a search looks for. -/
structure Written where
  expr : Expr
  sought : Option Test

def Written.ofText (text : List Code) : Except Refusal Written := do
  let (e, s) ← Reading.all.run { rest := Glyph.ofChars text }
  return ⟨e, e.sought? s.mode.ascii⟩

def Expr.parse? (text : List Code) : Option Expr :=
  match Written.ofText text with
  | .ok w => some w.expr
  | .error _ => none

end Actionary.Pattern
