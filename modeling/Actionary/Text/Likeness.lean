/-!
# Likeness of texts

How alike two texts are is measured by the characters that they share: the longest stretch that
stands in both of them, and what is shared in front of that stretch and after it. Of stretches of
one length the first counts. A word that is not known can be answered with the known names that are
most alike to it.
-/

namespace Actionary.Text

/-- A stretch that two texts have in common: where it starts in either, and its length. -/
structure Stretch where
  left : Nat
  right : Nat
  length : Nat
deriving DecidableEq, Repr

def Stretch.longer (s t : Stretch) : Stretch :=
  if s.length < t.length then t else s

def commonStart : List Char → List Char → Nat
  | a :: as, b :: bs => if a == b then commonStart as bs + 1 else 0
  | _, _ => 0

/-- The longest stretch that starts the first text and stands in the second; `right` characters of
the second text are in front of the given ones. -/
def longestStart (left : Nat) (as : List Char) (right : Nat) : List Char → Stretch
  | [] => ⟨left, right, 0⟩
  | b :: bs =>
    Stretch.longer ⟨left, right, commonStart as (b :: bs)⟩ (longestStart left as (right + 1) bs)

/-- The longest stretch that stands in both texts; `left` characters of the first text are in front
of the given ones. -/
def longestStretch (bs : List Char) (left : Nat) : List Char → Stretch
  | [] => ⟨left, 0, 0⟩
  | a :: as => (longestStart left (a :: as) 0 bs).longer (longestStretch bs (left + 1) as)

/-- How many characters two texts share, if the first has at most as many characters as the fuel
says. -/
def sharedWithin : Nat → List Char → List Char → Nat
  | 0, _, _ => 0
  | fuel + 1, as, bs =>
    let s := longestStretch bs 0 as
    if s.length == 0 then 0
    else
      sharedWithin fuel (as.take s.left) (bs.take s.right) + s.length +
        sharedWithin fuel (as.drop (s.left + s.length)) (bs.drop (s.right + s.length))

def shared (as bs : List Char) : Nat :=
  sharedWithin as.length as bs

/-- A name, the number of characters it shares with a word, and the number they have together. -/
structure Rated where
  name : String
  common : Nat
  total : Nat
deriving DecidableEq, Repr

namespace Rated

def of (word name : String) : Rated :=
  ⟨name, shared name.toList word.toList, name.length + word.length⟩

/-- Whether the name is close to the word: three fifths of the characters are shared. -/
def isClose (r : Rated) : Bool :=
  3 * r.total ≤ 10 * r.common

/-- Whether the first name comes first: it is more alike to the word, or as much and later in the
order of names. -/
def before (r s : Rated) : Bool :=
  let a := r.common * s.total
  let b := s.common * r.total
  b < a || (a == b && s.name ≤ r.name)

end Rated

def closest (word : String) (names : List String) : List String :=
  let close := (names.map (Rated.of word)).filter (·.isClose)
  (((close.mergeSort Rated.before).take 3).map (·.name)).mergeSort fun a b => a ≤ b

end Actionary.Text
