import Actionary.Number.Numeral
import Actionary.Pattern.Mode
import Actionary.Pattern.Refusal
import Actionary.Pattern.Width
import Actionary.Text.Identifier

/-!
# Reading written patterns

What is left of a written pattern while it is read, what was learned from the part that was read,
and the steps of reading. A backslash and the character after it are taken together. A backslash
that ends the text is found as soon as nothing else is left.
-/

namespace Actionary.Pattern

open Actionary.Text

/-- A character of a written pattern, plain or after a backslash. -/
inductive Glyph where
  | plain (c : Code)
  | escaped (c : Code)
  | dangling
deriving DecidableEq, Repr

def Glyph.ofChars : List Code → List Glyph
  | [] => []
  | '\\' :: [] => [.dangling]
  | '\\' :: c :: cs => .escaped c :: ofChars cs
  | c :: cs => .plain c :: ofChars cs

/-- What is left of a written pattern, and what was read of it. A group has no width while it is
open. Inside a condition on what is before the cursor, `behindFrom` counts the groups opened before
it; a `flawed` pattern breaks a rule that is looked at last. -/
structure Source where
  rest : List Glyph
  mode : Mode := {}
  letters : List Code := []
  groups : List (Option Width) := []
  names : List (List Code × Nat) := []
  tested : List Nat := []
  behindFrom : Option Nat := none
  flawed : Bool := false

def Source.widths (s : Source) (group : Nat) : Width :=
  match s.groups[group - 1]? with
  | some (some w) => w
  | _ => .zero

/-- A reading step; a pattern can be refused. -/
abbrev Reading := StateT Source (Except Refusal)

namespace Reading

def malformed : Reading α :=
  throw .malformed

def peek : Reading (Option Glyph) := do
  return (← get).rest.head?

def leave (rest : List Glyph) : Reading Unit := do
  if rest == [.dangling] then malformed
  modify fun s => { s with rest := rest }

def next : Reading (Option Glyph) := do
  match (← get).rest with
  | [] => return none
  | g :: rest =>
    leave rest
    return some g

def accept (c : Code) : Reading Bool := do
  match (← get).rest with
  | .plain d :: rest =>
    if d == c then
      leave rest
      return true
    else return false
  | _ => return false

def expect (c : Code) : Reading Unit := do
  if ← accept c then return () else malformed

/-- The plain characters that meet a test at the start of a list. -/
def span (p : Code → Bool) : Nat → List Glyph → List Code × List Glyph
  | n + 1, .plain c :: rest =>
    if p c then
      let (cs, left) := span p n rest
      (c :: cs, left)
    else ([], .plain c :: rest)
  | _, rest => ([], rest)

def takeWhile (p : Code → Bool) (n : Nat) : Reading (List Code) := do
  let (cs, rest) := span p n (← get).rest
  leave rest
  return cs

def nameUntil (stop : Code) : List Glyph → Option (List Code × List Glyph)
  | .plain c :: rest =>
    if c == stop then some ([], rest)
    else (nameUntil stop rest).map fun r => (c :: r.1, r.2)
  | _ => none

def name (stop : Code) : Reading (List Code) := do
  match nameUntil stop (← get).rest with
  | some (c :: cs, rest) =>
    leave rest
    return c :: cs
  | _ => malformed

def numberOf (base : Nat) (cs : List Code) : Nat :=
  cs.foldl (fun n c => n * base + (Numeral.digitIn? base c).getD 0) 0

def isDigitOf (base : Nat) (c : Code) : Bool :=
  c.toNat < 128 && (Numeral.digitIn? base c).isSome

def hexadecimal (n : Nat) : Reading Nat := do
  let cs ← takeWhile (isDigitOf 16) n
  if cs.length == n then return numberOf 16 cs else malformed

def openGroup (groupName : Option (List Code)) : Reading Nat := do
  let s ← get
  let group := s.groups.length + 1
  match groupName with
  | none => set { s with groups := s.groups ++ [none] }
  | some n =>
    if s.names.any (·.1 == n) then malformed
    set { s with groups := s.groups ++ [none], names := (n, group) :: s.names }
  return group

def closeGroup (group : Nat) (body : Expr) : Reading Unit :=
  modify fun s => { s with groups := s.groups.set (group - 1) (some (body.width s.widths)) }

/-- Refuses a group that is open or was opened inside the condition being read. -/
def checkBehind (group : Nat) : Reading Unit := do
  let s ← get
  match s.behindFrom with
  | none => return ()
  | some n =>
    match s.groups[group - 1]? with
    | some (some _) => if group ≤ n then return () else malformed
    | _ => malformed

/-- The text of a group again; the group must be closed. -/
def again (mode : Mode) (group : Nat) : Reading Expr := do
  match (← get).groups[group - 1]? with
  | some (some _) =>
    checkBehind group
    return .again group mode.rule
  | _ => malformed

def flaw : Reading Unit :=
  modify fun s => { s with flawed := true }

inductive FlagChange where
  | whole (letters : List Code) (mode : Mode)
  | group (mode : Mode)

/-- Reads flags, the first of whose letters may be a minus sign. -/
def flags (mode : Mode) : Reading FlagChange := do
  let on ← takeWhile Code.isAlpha (← get).rest.length
  let some added := flagsOf on | malformed
  let changed := added.foldl (fun m f => f.on m) mode
  if ← accept ')' then
    if on.isEmpty then malformed
    return .whole on changed
  if added.any (·.wholeOnly) then malformed
  if ← accept ':' then
    if on.isEmpty then malformed
    return .group changed
  expect '-'
  let off ← takeWhile Code.isAlpha (← get).rest.length
  expect ':'
  let some removed := flagsOf off | malformed
  if off.isEmpty || removed.any (fun f => f.charset || f.wholeOnly) then malformed
  if off.any (on.contains ·) then malformed
  return .group (removed.foldl (fun m f => f.off m) changed)

def groupLimit : Nat := 1073741823

def conditionGroup : Reading Nat := do
  let n ← name ')'
  let s ← get
  if isIdentifier n then
    match s.names.find? (·.1 == n) with
    | none => malformed
    | some (_, group) =>
      checkBehind group
      return group
  match Numeral.int? 10 n with
  | some (.ofNat (group + 1)) =>
    if groupLimit ≤ group + 1 then malformed
    set { s with tested := (group + 1) :: s.tested }
    checkBehind (group + 1)
    return group + 1
  | _ => malformed

def skipComment : List Glyph → Option (List Glyph)
  | [] => none
  | .plain ')' :: rest => some rest
  | _ :: rest => skipComment rest

def skipLine : List Glyph → List Glyph
  | .plain '\n' :: rest => rest
  | [] => []
  | [.dangling] => [.dangling]
  | _ :: rest => skipLine rest

/-- The bounds of a repetition after an opening brace, if they are written there. -/
def bounds? (rest : List Glyph) : Option ((List Code × List Code) × List Glyph) :=
  let (low, rest) := span isAsciiDigit rest.length rest
  let (high, left) :=
    match rest with
    | .plain ',' :: rest => span isAsciiDigit rest.length rest
    | rest => (low, rest)
  match left with
  | .plain '}' :: left => some ((low, high), left)
  | _ => none

/-- The least number of times that is too great for a repetition. -/
def timesLimit : Nat := 4294967295

def timesOf (digits : List Code) : Reading Nat := do
  if digits.length > Numeral.mostDigits then throw (.tooManyDigits digits.length)
  let n := numberOf 10 digits
  if timesLimit ≤ n then throw .tooManyTimes
  return n

/-- The bounds after an opening brace, or nothing if the brace stands for itself. -/
def braceBounds : Reading (Option (Nat × Option Nat)) := do
  let s ← get
  if s.rest.head? == some (.plain '}') then return none
  match bounds? s.rest with
  | none => return none
  | some ((low, high), rest) =>
    leave rest
    let least ← timesOf low
    if high.isEmpty then return some (least, none)
    let most ← timesOf high
    if most < least then malformed
    return some (least, some most)

end Reading

end Actionary.Pattern
