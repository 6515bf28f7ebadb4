import Actionary.Text.Ranges
import Actionary.Text.CaseRuns
import Actionary.Text.CasedRanges

/-!
# Small and capital letters

The small and the capital form of a text. Both map each character by itself, with one exception: a
capital sigma becomes the final small sigma where it ends a word. A character may become several:
the capital form of a sharp s is a double S.
-/

namespace Actionary.Text

def lowerChar (c : Code) : List Code :=
  if c.toNat < 0x80 then [c.toLower]
  else if c == '\u0130' then ['i', '\u0307']
  else
    match lowerRuns.findSome? (·.image? c.toNat) with
    | some n => [Code.ofNat n]
    | none => [c]

def upperChar (c : Code) : List Code :=
  if c.toNat < 0x80 then [c.toUpper]
  else
    match upperSequences.find? (·.1 == c.toNat) with
    | some s => s.2.map Code.ofNat
    | none =>
      match upperRuns.findSome? (·.image? c.toNat) with
      | some n => [Code.ofNat n]
      | none => [c]

def isCased (c : Code) : Bool :=
  inRanges casedRanges c

def isCaseNeutral (c : Code) : Bool :=
  inRanges caseNeutralRanges c

/-- Whether a letter with these characters before it (nearest first) and after it ends a word: there
is a cased letter before it and none after it, case-neutral characters left aside. -/
def endsWord (before after : List Code) : Bool :=
  match before.dropWhile isCaseNeutral with
  | [] => false
  | b :: _ =>
    isCased b &&
      match after.dropWhile isCaseNeutral with
      | [] => true
      | a :: _ => !isCased a

/-- The small form of the rest of a text, given what stands before it, nearest first. -/
def lowerAfter : List Code → List Code → List Code
  | _, [] => []
  | before, c :: after =>
    let small :=
      if c == 'Σ' then [.char (if endsWord before after then 'ς' else 'σ')] else lowerChar c
    small ++ lowerAfter (c :: before) after

def lower (cs : List Code) : List Code :=
  lowerAfter [] cs

end Actionary.Text
