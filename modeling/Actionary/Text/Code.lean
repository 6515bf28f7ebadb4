/-!
# Code points and texts

A text is a sequence of code points. A code point is a character or a half of a surrogate pair. An
escape in a catalog can write a half by itself, and a text keeps it like any other code point; but a
half has no encoding, so no file and no line of input or output can hold one.
-/

namespace Actionary

/-- A code point. -/
inductive Code where
  | char (c : Char)
  | half (n : Fin 0x800)
deriving DecidableEq, Repr, Inhabited

namespace Code

instance : Coe Char Code := ⟨.char⟩

/-- The first half of a surrogate pair, by number. -/
def firstHalf : Nat := 0xD800

def toNat : Code → Nat
  | .char c => c.toNat
  | .half n => firstHalf + n

/-- The code point of a number. What is beyond all code points counts as zero. -/
def ofNat (n : Nat) : Code :=
  if h : firstHalf ≤ n ∧ n < firstHalf + 0x800 then .half ⟨n - firstHalf, by omega⟩
  else .char (.ofNat n)

def isHalf : Code → Bool
  | .char _ => false
  | .half _ => true

/-- Whether a code point is a character of a class. -/
def isChar (p : Char → Bool) : Code → Bool
  | .char c => p c
  | .half _ => false

def isAlpha : Code → Bool := isChar Char.isAlpha

def isDigit : Code → Bool := isChar Char.isDigit

def isAlphanum : Code → Bool := isChar Char.isAlphanum

def isUpper : Code → Bool := isChar Char.isUpper

def isLower : Code → Bool := isChar Char.isLower

def toUpper : Code → Code
  | .char c => .char c.toUpper
  | .half n => .half n

def toLower : Code → Code
  | .char c => .char c.toLower
  | .half n => .half n

instance : LE Code := ⟨fun a b => a.toNat ≤ b.toNat⟩

instance : LT Code := ⟨fun a b => a.toNat < b.toNat⟩

instance (a b : Code) : Decidable (a ≤ b) := inferInstanceAs (Decidable (a.toNat ≤ b.toNat))

instance (a b : Code) : Decidable (a < b) := inferInstanceAs (Decidable (a.toNat < b.toNat))

@[simp] theorem toNat_char (c : Char) : (Code.char c).toNat = c.toNat := rfl

theorem isAlpha_eq (c : Code) : c.isAlpha = (c.isUpper || c.isLower) := by
  cases c <;> rfl

theorem isAlphanum_eq (c : Code) : c.isAlphanum = (c.isAlpha || c.isDigit) := by
  cases c <;> rfl

theorem ofNat_toNat (c : Code) : ofNat c.toNat = c := by
  cases c with
  | char c =>
      have h : c.toNat.isValidChar := c.valid
      simp only [Nat.isValidChar] at h
      rw [ofNat, dif_neg, toNat_char, Char.ofNat_toNat]
      simp only [toNat, firstHalf]
      omega
  | half n =>
      have h := n.isLt
      rw [ofNat, dif_pos (by simp only [toNat, firstHalf]; omega)]
      simp only [toNat, Nat.add_sub_cancel_left, Fin.eta]

theorem toNat_ofNat {n : Nat} (h : n < 0x110000) : (ofNat n).toNat = n := by
  by_cases hhalf : firstHalf ≤ n ∧ n < firstHalf + 0x800
  · rw [ofNat, dif_pos hhalf]
    exact Nat.add_sub_cancel' hhalf.1
  · have hvalid : n.isValidChar := by
      simp only [firstHalf] at hhalf
      simp only [Nat.isValidChar]
      omega
    rw [ofNat, dif_neg hhalf]
    exact congrArg Char.toNat (dif_pos hvalid)

theorem toNat_inj {c d : Code} : c.toNat = d.toNat ↔ c = d :=
  ⟨fun h => by rw [← ofNat_toNat c, h, ofNat_toNat], congrArg toNat⟩

instance : Std.IsLinearOrder Code where
  le_refl a := Nat.le_refl a.toNat
  le_trans _ _ _ h h' := Nat.le_trans h h'
  le_antisymm _ _ h h' := toNat_inj.mp (Nat.le_antisymm h h')
  le_total a b := Nat.le_total a.toNat b.toNat

instance : Std.LawfulOrderLT Code where
  lt_iff _ _ := Nat.lt_iff_le_and_not_ge

/-- The characters of code points, if no half is among them. -/
def chars? (cs : List Code) : Option (List Char) :=
  cs.mapM fun
    | .char c => some c
    | .half _ => none

end Code

structure Text where
  ofList ::
  toList : List Code
deriving DecidableEq, Repr, Inhabited

namespace Text

/-- The text of the characters of a string. -/
def ofString (s : String) : Text :=
  ⟨s.toList.map .char⟩

instance : Coe String Text := ⟨ofString⟩

/-- The string of a text, if no half is in it. -/
def string? (t : Text) : Option String :=
  (Code.chars? t.toList).map .ofList

def hasHalf (t : Text) : Bool :=
  t.toList.any Code.isHalf

/-- A text in which three replacement characters stand for each half, one for each byte of it. -/
def blurred (t : Text) : Text :=
  ⟨t.toList.flatMap fun c => if c.isHalf then ['\uFFFD', '\uFFFD', '\uFFFD'] else [c]⟩

def singleton (c : Code) : Text :=
  ⟨[c]⟩

def length (t : Text) : Nat :=
  t.toList.length

def isEmpty (t : Text) : Bool :=
  t.toList.isEmpty

instance : Append Text := ⟨fun s t => ⟨s.toList ++ t.toList⟩⟩

def join (ts : List Text) : Text :=
  ⟨ts.flatMap toList⟩

/-- Texts one after another, with another text between each two. -/
def intercalate (between : Text) : List Text → Text
  | [] => ""
  | [t] => t
  | t :: u :: rest => t ++ between ++ intercalate between (u :: rest)

/-- Texts are ordered by their first code point that differs. -/
instance : LT Text := ⟨fun s t => s.toList < t.toList⟩

instance : LE Text := ⟨fun s t => s.toList ≤ t.toList⟩

instance (s t : Text) : Decidable (s < t) := inferInstanceAs (Decidable (s.toList < t.toList))

instance (s t : Text) : Decidable (s ≤ t) := inferInstanceAs (Decidable (s.toList ≤ t.toList))

@[simp] theorem toList_ofList (cs : List Code) : (Text.ofList cs).toList = cs := rfl

@[simp] theorem ofList_toList (t : Text) : Text.ofList t.toList = t := rfl

@[simp] theorem toList_ofString (s : String) : (ofString s).toList = s.toList.map .char := rfl

@[simp] theorem toList_singleton (c : Code) : (singleton c).toList = [c] := rfl

@[simp] theorem toList_append (s t : Text) : (s ++ t).toList = s.toList ++ t.toList := rfl

@[simp] theorem length_toList (t : Text) : t.toList.length = t.length := rfl

theorem toList_inj {s t : Text} : s.toList = t.toList ↔ s = t :=
  ⟨fun h => by cases s; cases t; exact congrArg Text.ofList h, congrArg Text.toList⟩

theorem append_assoc (s t u : Text) : s ++ t ++ u = s ++ (t ++ u) :=
  toList_inj.mp (List.append_assoc ..)

@[simp] theorem append_empty (t : Text) : t ++ "" = t :=
  toList_inj.mp (List.append_nil _)

@[simp] theorem empty_append (t : Text) : "" ++ t = t :=
  toList_inj.mp rfl

theorem ofList_eq_empty_iff {cs : List Code} : Text.ofList cs = "" ↔ cs = [] := by
  rw [← toList_inj]
  exact Iff.rfl

theorem toList_join (ts : List Text) : (join ts).toList = ts.flatMap toList := rfl

theorem intercalate_singleton (between t : Text) : intercalate between [t] = t := rfl

theorem intercalate_cons_cons (between t u : Text) (rest : List Text) :
    intercalate between (t :: u :: rest) = t ++ between ++ intercalate between (u :: rest) := rfl

theorem intercalate_cons_append (between t u : Text) (rest : List Text) :
    intercalate between ((t ++ u) :: rest) = t ++ intercalate between (u :: rest) := by
  cases rest with
  | nil => rfl
  | cons v rest => simp only [intercalate_cons_cons, append_assoc]

theorem le_trans {s t u : Text} (h : s ≤ t) (h' : t ≤ u) : s ≤ u :=
  List.le_trans h h'

theorem le_total (s t : Text) : s ≤ t ∨ t ≤ s :=
  List.le_total s.toList t.toList

theorem le_antisymm {s t : Text} (h : s ≤ t) (h' : t ≤ s) : s = t :=
  toList_inj.mp (List.le_antisymm h h')

end Text

end Actionary
