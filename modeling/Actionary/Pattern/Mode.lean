import Actionary.Pattern.Expr

/-!
# Flags of patterns

The flags that change how the parts of a pattern are meant, the letters that set them, and the
conditions on single characters under the flags.
-/

namespace Actionary.Pattern

open Actionary.Text

/-- The flags in effect at a place of a pattern. Blanks and comments are skipped where `spaced`
holds; repetitions are refused where `fixed` holds. -/
structure Mode where
  anyCase : Bool := false
  everyLine : Bool := false
  dotAll : Bool := false
  spaced : Bool := false
  ascii : Bool := false
  fixed : Bool := false
deriving DecidableEq, Repr

def CaseRule.isCased (rule : CaseRule) (n : Nat) : Bool :=
  match rule with
  | .exact => false
  | .ascii => n < 0x80 && (Code.ofNat n).isAlpha
  | .full => (Code.ofNat n).toNat == n && comesInCases (Code.ofNat n)

/-- Whether one of the code points from one to another has another form under a rule. -/
def CaseRule.isCasedWithin (rule : CaseRule) (first last : Nat) : Bool :=
  match rule with
  | .exact => false
  | .ascii => (first ≤ 0x5A && 0x41 ≤ last) || (first ≤ 0x7A && 0x61 ≤ last)
  | .full => casesWithin first last

namespace Item

/-- Whether the case of letters has to be looked at to find a member. Members beyond two bytes are
always taken for letters. -/
def isCased (rule : CaseRule) : Item → Bool
  | .point n => beyondTwoBytes ≤ n || rule.isCased n
  | .range first last => beyondTwoBytes ≤ last || rule.isCasedWithin first last
  | .named _ _ _ => false

/-- Whether a member is the same with and without regard to the case of letters. -/
def isCaseless (rule : CaseRule) : Item → Bool
  | .point n => !rule.isCased n
  | .range first last => last < beyondTwoBytes && !rule.isCasedWithin first last
  | .named _ _ _ => true

/-- A member with the named classes of ASCII, or with those of all characters. -/
def withClasses (ascii : Bool) : Item → Item
  | .named k _ negated => .named k ascii negated
  | i => i

end Item

namespace Mode

def rule (m : Mode) : CaseRule :=
  if !m.anyCase then .exact else if m.ascii then .ascii else .full

def charTest (m : Mode) (negated : Bool) (n : Nat) : Test :=
  .char negated (if m.rule.isCased n then m.rule else .exact) n

def setTest (m : Mode) (negated : Bool) (items : List Item) : Test :=
  .set negated (if m.anyCase && items.any (·.isCased m.rule) then m.rule else .exact) items

/-- The members of a written set, or all others, under the flags. Repeated members count once, and a
set of one character is that character. -/
def writtenSet (m : Mode) (negated : Bool) (items : List Item) : Test :=
  match items.eraseDups with
  | [.point n] => m.charTest negated n
  | members => m.setTest negated members

end Mode

/-- The characters that a search looks for, if a pattern starts with one of a set. They are looked
for in disregard of case, so they are known only for a set without letters; and the named classes
are those of the whole pattern. -/
def Test.sought? (ascii : Bool) : Test → Option Test
  | .set negated rule items =>
    if items.all (·.isCaseless rule) then
      some (.set negated .exact (items.map (·.withClasses ascii)))
    else none
  | _ => none

def Expr.sought? (ascii : Bool) : Expr → Option Test
  | .one t => t.sought? ascii
  | .seq first _ => first.sought? ascii
  | .capture _ body => body.sought? ascii
  | _ => none

/-- A letter that sets a flag. Some choose between ASCII and all characters (`charset`), some hold
for whole patterns only. -/
structure FlagLetter where
  letter : Code
  on : Mode → Mode
  off : Mode → Mode
  charset : Bool := false
  wholeOnly : Bool := false

/-- The letters that set flags; after the version of Unicode 15.0 there is no `t` among them. -/
def flagLetters : List FlagLetter :=
  [⟨'i', fun m => { m with anyCase := true }, fun m => { m with anyCase := false }, false, false⟩,
    ⟨'m', fun m => { m with everyLine := true }, fun m => { m with everyLine := false },
      false, false⟩,
    ⟨'s', fun m => { m with dotAll := true }, fun m => { m with dotAll := false }, false, false⟩,
    ⟨'x', fun m => { m with spaced := true }, fun m => { m with spaced := false }, false, false⟩,
    ⟨'a', fun m => { m with ascii := true }, id, true, false⟩,
    ⟨'u', fun m => { m with ascii := false }, id, true, false⟩,
    ⟨'t', fun m => { m with fixed := true }, id, false, true⟩]

def flag? (c : Code) : Option FlagLetter :=
  flagLetters.find? (·.letter == c)

/-- The flags that letters name; those that choose the characters exclude each other. -/
def flagsOf : List Code → Option (List FlagLetter)
  | [] => some []
  | c :: cs => do
    let f ← flag? c
    let fs ← flagsOf cs
    if f.charset && fs.any (fun g => g.charset && g.letter != f.letter) then none
    else some (f :: fs)

end Actionary.Pattern
