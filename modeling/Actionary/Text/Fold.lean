import Actionary.Text.LetterCase

/-!
# Comparison without regard to case

Two characters are the same letter when their fold keys agree. The key of a character is its small
form, taken to one representative where several small forms share a capital: the long s and the
plain s, the two small sigmas, the dotless and the dotted i.
-/

namespace Actionary.Text

/-- Small letters that share a capital form. The first of each group stands for all of it. -/
def foldGroups : List (List Nat) :=
  [[0x69, 0x131], [0x73, 0x17F], [0xB5, 0x3BC], [0x345, 0x3B9, 0x1FBE], [0x390, 0x1FD3],
    [0x3B0, 0x1FE3], [0x3B2, 0x3D0], [0x3B5, 0x3F5], [0x3B8, 0x3D1], [0x3BA, 0x3F0],
    [0x3C0, 0x3D6], [0x3C1, 0x3F1], [0x3C2, 0x3C3], [0x3C6, 0x3D5], [0x432, 0x1C80],
    [0x434, 0x1C81], [0x43E, 0x1C82], [0x441, 0x1C83], [0x442, 0x1C84, 0x1C85], [0x44A, 0x1C86],
    [0x463, 0x1C87], [0x1C88, 0xA64B], [0x1E61, 0x1E9B], [0xFB05, 0xFB06]]

def smallChar (c : Code) : Code :=
  match lowerChar c with
  | [] => c
  | d :: _ => d

def capitalChar (c : Code) : Code :=
  match upperChar c with
  | [] => c
  | d :: _ => d

def comesInCases (c : Code) : Bool :=
  smallChar c != c || capitalChar c != c

/-- Whether one of the code points from one to another has another form in small or capital letters.
-/
def casesWithin (first last : Nat) : Bool :=
  let meets (a b : Nat) : Bool := first ≤ b && a ≤ last
  meets 0x41 0x5A || meets 0x61 0x7A || meets 0x130 0x130 || lowerRuns.any (·.meets first last) ||
    upperRuns.any (·.meets first last) || upperSequences.any fun s => meets s.1 s.1

def foldGroup (c : Code) : List Nat :=
  match foldGroups.find? (·.contains c.toNat) with
  | some g => g
  | none => [c.toNat]

/-- The representative of all characters that are the same letter. -/
def foldKey (c : Code) : Code :=
  match foldGroups.find? (·.contains (smallChar c).toNat) with
  | some (n :: _) => Code.ofNat n
  | _ => smallChar c

/-- Whether two characters are the same letter. -/
def sameLetter (a b : Code) : Bool :=
  foldKey a == foldKey b

/-- The code points of all characters that are the same letter as the given one. -/
def foldClass (c : Code) : List Nat :=
  (foldGroup (smallChar c)).flatMap fun n =>
    n :: (if 0x61 ≤ n && n ≤ 0x7A then [n - 0x20] else []) ++
      (if n == 0x69 then [0x130] else []) ++ lowerRuns.filterMap (·.source? n)

end Actionary.Text
