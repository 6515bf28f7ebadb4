import Actionary.Text.Blank
import Actionary.Text.Digit
import Actionary.Text.Fold
import Actionary.Text.Word

/-!
# Recognition patterns

The expressions that recognise a phrase on a line: single characters, sequences, ordered choices,
repetitions, captured groups, and conditions on what stands around the cursor. Every choice that a
pattern leaves open is settled by order: the earlier alternative, the longer greedy repetition and
the shorter reluctant one come first.
-/

namespace Actionary.Pattern

open Actionary.Text

/-- How letters of different case compare: as different, the ASCII letters as the same, or all forms
of a letter as the same. -/
inductive CaseRule where
  | exact
  | ascii
  | full
deriving DecidableEq, Repr

inductive CharClass where
  | digit
  | blank
  | word
deriving DecidableEq, Repr

/-- Whether a character belongs to a class, or to the ASCII part of it. -/
def CharClass.holds (k : CharClass) (ascii : Bool) (c : Code) : Bool :=
  match k, ascii with
  | .digit, false => isDigit c
  | .digit, true => isAsciiDigit c
  | .blank, false => isBlank c
  | .blank, true => isAsciiBlank c
  | .word, false => isWord c
  | .word, true => isAsciiWord c

namespace CaseRule

def small (rule : CaseRule) (c : Code) : Code :=
  match rule with
  | .exact => c
  | .ascii => c.toLower
  | .full => smallChar c

def variants (rule : CaseRule) (c : Code) : List Nat :=
  match rule with
  | .exact => [c.toNat]
  | .ascii => [c.toNat, c.toLower.toNat, c.toUpper.toNat]
  | .full => c.toNat :: foldClass c

def same (rule : CaseRule) (n : Nat) (c : Code) : Bool :=
  match rule with
  | .exact => n == c.toNat
  | .ascii => n == c.toNat || n == c.toLower.toNat || n == c.toUpper.toNat
  | .full => (Code.ofNat n).toNat == n && sameLetter (Code.ofNat n) c

end CaseRule

inductive Item where
  | point (n : Nat)
  | range (first last : Nat)
  | named (k : CharClass) (ascii : Bool) (negated : Bool)
deriving DecidableEq, Repr

/-- The first code point beyond those of two bytes. In sets, code points from here on are compared
by their small and capital forms alone. -/
def beyondTwoBytes : Nat := 0x10000

/-- Whether a character is a member, under a rule of comparison. -/
def Item.holds (rule : CaseRule) (c : Code) : Item → Bool
  | .point n =>
    if rule == .exact then n == c.toNat
    else if n < beyondTwoBytes then rule.same n c
    else n == (rule.small c).toNat
  | .range first last =>
    let within (n : Nat) : Bool := first ≤ n && n ≤ last
    if rule == .exact then within c.toNat
    else
      (rule.variants c).any (fun n => within n && n < beyondTwoBytes) ||
        (beyondTwoBytes ≤ last &&
          (within (rule.small c).toNat || within (capitalChar (rule.small c)).toNat))
  | .named k ascii negated => k.holds ascii (rule.small c) != negated

/-- A condition on one character; a negated one holds of all other characters. -/
inductive Test where
  | any
  | sameLine
  | char (negated : Bool) (rule : CaseRule) (n : Nat)
  | set (negated : Bool) (rule : CaseRule) (items : List Item)
deriving DecidableEq, Repr

namespace Test

def holds : Test → Code → Bool
  | .any, _ => true
  | .sameLine, c => c != '\n'
  | .char negated rule n, c => rule.same n c != negated
  | .set negated rule items, c => items.any (·.holds rule c) != negated

/-- Whether a condition looks for the members of a set, after the case of letters was taken away. A
letter with several small forms counts as a set of them. -/
def isFolded : Test → Bool
  | .set _ rule _ => rule != .exact
  | .char _ .full n => 1 < (foldGroup (smallChar (Code.ofNat n))).length
  | _ => false

end Test

/-- Conditions on the place of the cursor. The last line ends at the end of the text or before a
line feed that ends it; `inside` is everywhere but at a boundary in a text that is not empty. -/
inductive Anchor where
  | textStart
  | textEnd
  | lastLineEnd
  | lineStart
  | lineEnd
  | boundary (ascii : Bool)
  | inside (ascii : Bool)
deriving DecidableEq, Repr

/-- In which order the lengths of a repetition are tried: longer first, shorter first, or the
longest only. -/
inductive Greed where
  | greedy
  | reluctant
  | possessive
deriving DecidableEq, Repr

/-- A recognition pattern. A condition on characters is repeated by `many`, any pattern by `rep`;
`atomic` is the first way a pattern fits and no other, and `again` the text of a captured group. -/
inductive Expr where
  | empty
  | fail
  | one (t : Test)
  | anchor (a : Anchor)
  | seq (first second : Expr)
  | alt (first others : Expr)
  | many (greed : Greed) (least : Nat) (most : Option Nat) (t : Test)
  | rep (greed : Greed) (least : Nat) (most : Option Nat) (body : Expr)
  | capture (group : Nat) (body : Expr)
  | atomic (body : Expr)
  | ahead (negated : Bool) (body : Expr)
  | behind (negated : Bool) (width : Nat) (body : Expr)
  | again (group : Nat) (rule : CaseRule)
  | ifCaptured (group : Nat) (yes no : Expr)
deriving DecidableEq, Repr, Inhabited

namespace Expr

def seqAll : List Expr → Expr
  | [] => .empty
  | [e] => e
  | e :: es => .seq e (seqAll es)

def altAll : List Expr → Expr
  | [] => .fail
  | e :: es => .alt e (altAll es)

def repeated (greed : Greed) (least : Nat) (most : Option Nat) : Expr → Expr
  | .one t => .many greed least most t
  | body => .rep greed least most body

def char (rule : CaseRule) (c : Code) : Expr :=
  .one (.char false rule c.toNat)

def text (rule : CaseRule) (cs : List Code) : Expr :=
  seqAll (cs.map (char rule))

end Expr

end Actionary.Pattern
