import Actionary.Number.Numeral
import Actionary.Yaml.Problem

/-!
# Scalars of documents

How the text of a scalar is read from its written form: without quotes, between quotes, or as a
block of lines. Line breaks inside a scalar fold into spaces, except in literal blocks; blank lines
stay.
-/

namespace Actionary.Yaml

abbrev Read := Except Problem (List Code × Place)

def complain (c : Complaint) (p : Place) : Except Problem α :=
  .error (.found c p.mark)

/-- Line breaks, and the spaces in front of them and behind them. -/
def quotedBreaks : Nat → Place → Read
  | 0, p => .ok ([], p)
  | fuel + 1, p =>
    if p.atSeparator then complain .unexpectedSeparator p
    else
      let p := p.skipWhile fun c => c == ' ' || c == '\t'
      if isBreak p.head then do
        let (first, p) := p.lineBreak
        let (others, p) ← quotedBreaks fuel p
        return (first ++ others, p)
      else .ok ([], p)

/-- Spaces between the parts of a quoted scalar. A line break folds into a space. -/
def quotedSpaces (p : Place) : Read :=
  let spaces := p.run fun c => c == ' ' || c == '\t'
  let p := p.skip spaces.length
  if p.head == endChar then complain .unexpectedEnd p
  else if isBreak p.head then do
    let (first, p) := p.lineBreak
    let (breaks, p) ← quotedBreaks p.fuel p
    if first != [.char '\n'] then return (first ++ breaks, p)
    else if breaks.isEmpty then return ([' '], p)
    else return (breaks, p)
  else .ok (spaces, p)

def escaped? : Code → Option Code
  | '0' => some '\x00'
  | 'a' => some '\x07'
  | 'b' => some '\x08'
  | 't' => some '\t'
  | '\t' => some '\t'
  | 'n' => some '\n'
  | 'v' => some '\x0b'
  | 'f' => some '\x0c'
  | 'r' => some '\r'
  | 'e' => some '\x1b'
  | ' ' => some ' '
  | '"' => some '"'
  | '\\' => some '\\'
  | '/' => some '/'
  | 'N' => some '\x85'
  | '_' => some '\xa0'
  | 'L' => some '\u2028'
  | 'P' => some '\u2029'
  | _ => none

def escapeDigits? : Code → Option Nat
  | 'x' => some 2
  | 'u' => some 4
  | 'U' => some 8
  | _ => none

def isHexDigit (c : Code) : Bool :=
  c.toNat < 128 && (Numeral.digitIn? 16 c).isSome

def hexValue (cs : List Code) : Nat :=
  cs.foldl (fun n c => n * 16 + (Numeral.digitIn? 16 c).getD 0) 0

def codeOfNumber? (n : Nat) : Option Code :=
  if n ≥ 0x110000 then none else some (.ofNat n)

def doubleEscape (p : Place) : Read :=
  let c := p.head
  match escaped? c, escapeDigits? c with
  | some d, _ => .ok ([d], p.next)
  | none, some count =>
    let p := p.next
    let digits := (p.take count).takeWhile isHexDigit
    if digits.length < count then complain (.hexadecimalExpected count (p.ahead digits.length)) p
    else
      match codeOfNumber? (hexValue digits) with
      | some d => .ok ([d], p.skip count)
      | none => .error .noValue
  | none, none =>
    if isBreak c then
      let p := p.lineBreak.2
      quotedBreaks p.fuel p
    else complain (.unknownEscape c) p

def isQuotedPlain (c : Code) : Bool :=
  !(c == '\'' || c == '"' || c == '\\' || isGap c)

def quotedPart (double : Bool) : Nat → Place → Read
  | 0, p => .ok ([], p)
  | fuel + 1, p => do
    let taken := p.run isQuotedPlain
    let p := p.skip taken.length
    let c := p.head
    if !double && c == '\'' && p.ahead 1 == '\'' then
      let (others, p) ← quotedPart double fuel (p.skip 2)
      return (taken ++ .char '\'' :: others, p)
    else if (double && c == '\'') || (!double && (c == '"' || c == '\\')) then
      let (others, p) ← quotedPart double fuel p.next
      return (taken ++ c :: others, p)
    else if double && c == '\\' then
      let (first, p) ← doubleEscape p.next
      let (others, p) ← quotedPart double fuel p
      return (taken ++ first ++ others, p)
    else return (taken, p)

def quotedParts (double : Bool) : Nat → Place → Read
  | 0, p => .ok ([], p)
  | fuel + 1, p => do
    let (first, p) ← quotedPart double p.fuel p
    if p.head == (if double then '"' else '\'') then return (first, p.next)
    let (spaces, p) ← quotedSpaces p
    let (others, p) ← quotedParts double fuel p
    return (first ++ spaces ++ others, p)

def quotedScalar (double : Bool) (p : Place) : Read :=
  quotedParts double p.fuel p.next

/-- Line breaks after a line of a plain scalar, with the place after them; no text if a document
separator follows. -/
def plainBreaks : Nat → Place → Option (List Code) × Place
  | 0, p => (some [], p)
  | fuel + 1, p =>
    let p := p.skipWhile (· == ' ')
    if isBreak p.head then
      let (first, p) := p.lineBreak
      if p.atSeparator then (none, p)
      else
        let (others, p) := plainBreaks fuel p
        (others.map (first ++ ·), p)
    else (some [], p)

/-- What follows a part of a plain scalar. The text joins it to the next part and is empty if no
part can follow. -/
structure PlainGap where
  text : List Code
  place : Place
  broken : Bool

def plainGap (p : Place) : PlainGap :=
  let spaces := p.run (· == ' ')
  let p := p.skip spaces.length
  if isBreak p.head then
    let (first, p) := p.lineBreak
    if p.atSeparator then ⟨[], p, true⟩
    else
      match plainBreaks p.fuel p with
      | (none, p) => ⟨[], p, true⟩
      | (some breaks, p) =>
        if first != [.char '\n'] then ⟨first ++ breaks, p, true⟩
        else if breaks.isEmpty then ⟨[' '], p, true⟩
        else ⟨breaks, p, true⟩
  else ⟨spaces, p, false⟩

def isFlowMark (c : Code) : Bool :=
  c == ',' || c == '[' || c == ']' || c == '{' || c == '}'

/-- The characters of a part of a plain scalar. A colon ends it before a gap, and inside flow
collections brackets, commas and question marks end it too. -/
def plainPart (flow : Bool) : List Code → List Code
  | [] => []
  | c :: cs =>
    let following := cs.headD endChar
    if isGap c || (c == ':' && (isGap following || (flow && isFlowMark following))) ||
        (flow && (isFlowMark c || c == '?')) then []
    else c :: plainPart flow cs

/-- A plain scalar: its text, the place after it, and whether a line ended behind it. -/
structure PlainScalar where
  text : List Code
  place : Place
  stop : Mark
  broken : Bool

/-- Goes on with a plain scalar, of which a text and the gap behind it were read. -/
def plainMore (flow : Bool) (indent : Int) : Nat → PlainScalar → List Code → PlainScalar
  | 0, s, _ => s
  | fuel + 1, s, gap =>
    let part := plainPart flow s.place.rest
    if part.isEmpty then s
    else
      let p := s.place.skip part.length
      let g := plainGap p
      let s : PlainScalar := ⟨s.text ++ gap ++ part, g.place, p.mark, g.broken⟩
      if g.text.isEmpty || g.place.head == '#' ||
        (!flow && (g.place.mark.column : Int) < indent) then s
      else plainMore flow indent fuel s g.text

/-- A plain scalar from its first character on. The lines of a block scalar must be indented by
`indent`. -/
def plainScalar (flow : Bool) (indent : Int) (p : Place) : PlainScalar :=
  plainMore flow indent p.fuel ⟨[], p, p.mark, false⟩ []

/-- What happens to the line breaks at the end of a block scalar: all are dropped, one stays, or all
stay. -/
inductive Chomping where
  | strip
  | clip
  | keep
deriving DecidableEq, Repr

def chomping? : Code → Option Chomping
  | '+' => some .keep
  | '-' => some .strip
  | _ => none

def indentation (p : Place) : Except Problem (Option Nat × Place) :=
  if Text.isAsciiDigit p.head then
    if p.head == '0' then complain .zeroIndentation p
    else .ok (some (p.head.toNat - 48), p.next)
  else .ok (none, p)

/-- The signs after the mark of a block scalar, in either order. -/
def blockIndicators (p : Place) : Except Problem ((Chomping × Option Nat) × Place) := do
  let ((chomping, indent), p) ←
    match chomping? p.head with
    | some k => do
      let (n, p) ← indentation p.next
      pure ((k, n), p)
    | none => do
      let (n, p) ← indentation p
      match n, chomping? p.head with
      | some n, some k => pure ((k, some n), p.next)
      | n, _ => pure ((.clip, n), p)
  if isSpaceOrEnd p.head then return ((chomping, indent), p)
  else complain (.indicatorExpected p.head) p

/-- The rest of a line on which nothing but a comment may stand. -/
def restOfLine (p : Place) : Except Problem Place :=
  let p := p.skipWhile (· == ' ')
  let p := if p.head == '#' then p.skipWhile (!isBreakOrEnd ·) else p
  if isBreakOrEnd p.head then .ok p.lineBreak.2
  else complain (.lineEndExpected p.head) p

/-- The line breaks in front of a block scalar whose indentation is not written, and the greatest
indentation among its blank lines and its first line. -/
def leadingBreaks : Nat → Place → Nat → List Code × Nat × Place
  | 0, p, widest => ([], widest, p)
  | fuel + 1, p, widest =>
    if p.head == ' ' then leadingBreaks fuel p.next (max widest p.next.mark.column)
    else if isBreak p.head then
      let (first, p) := p.lineBreak
      let (others, widest, p) := leadingBreaks fuel p widest
      (first ++ others, widest, p)
    else ([], widest, p)

def skipIndent (indent : Nat) : Nat → Place → Place
  | 0, p => p
  | fuel + 1, p =>
    if p.mark.column < indent && p.head == ' ' then skipIndent indent fuel p.next else p

def blockBreaks (indent : Nat) : Nat → Place → List Code × Place
  | 0, p => ([], p)
  | fuel + 1, p =>
    let p := skipIndent indent indent p
    if isBreak p.head then
      let (first, p) := p.lineBreak
      let (others, p) := blockBreaks indent fuel p
      (first ++ others, p)
    else ([], p)

def atBlockLine (indent : Nat) (p : Place) : Bool :=
  p.mark.column == indent && p.head != endChar

/-- Whether a character makes a line keep its break in a folded scalar. -/
def isIndented (c : Code) : Bool :=
  c == ' ' || c == '\t'

/-- The lines of a block scalar, after the line breaks in front of them. -/
def blockLines (folded : Bool) (chomping : Chomping) (indent : Nat) :
    Nat → List Code → Place → List Code × Place
  | 0, _, p => ([], p)
  | fuel + 1, breaks, p =>
    let line := p.run (!isBreakOrEnd ·)
    let (ended, q) := (p.skip line.length).lineBreak
    let (more, q) := blockBreaks indent q.fuel q
    if atBlockLine indent q then
      let joint :=
        if folded && ended == [.char '\n'] && !isIndented p.head && !isIndented q.head then
          if more.isEmpty then [.char ' '] else []
        else ended
      let (others, q) := blockLines folded chomping indent fuel more q
      (breaks ++ line ++ joint ++ others, q)
    else
      let ending :=
        match chomping with
        | .strip => []
        | .clip => ended
        | .keep => ended ++ more
      (breaks ++ line ++ ending, q)

/-- A block scalar from its mark on, inside a collection of the given indentation. -/
def blockScalar (folded : Bool) (outer : Int) (p : Place) : Read := do
  let ((chomping, written), p) ← blockIndicators p.next
  let p ← restOfLine p
  let least := (max (outer + 1) 1).toNat
  let (breaks, indent, p) :=
    match written with
    | none =>
      let (breaks, widest, p) := leadingBreaks p.fuel p 0
      (breaks, max least widest, p)
    | some n =>
      let indent := least + n - 1
      let (breaks, p) := blockBreaks indent p.fuel p
      (breaks, indent, p)
  if atBlockLine indent p then
    return blockLines folded chomping indent p.fuel breaks p
  else
    match chomping with
    | .keep => return (breaks, p)
    | _ => return ([], p)

end Actionary.Yaml
