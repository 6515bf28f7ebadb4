import Actionary.Proofs.Phrase

/-!
# The letters of a phrase on a line

A line may write the letters of a phrase in other forms: capitals, the dotted and dotless i, the
long s, the sign for kelvins. Whichever form stands there, it is a word character
(`isWord_of_sameLetter`), it is a form of one plain letter only (`eq_of_sameLetter`), and no blank
is a word character (`isWord_of_isBlank`). So the words on a line can be told apart without knowing
the phrase.
-/

namespace Actionary

open Actionary.Text

/-! ## Plain letters stand for themselves -/

theorem foldKey_of_isPlain {c : Code} (h : isPlain c = true) : foldKey c = c :=
  of_ascii (p := fun c => isPlain c = true → foldKey c = c) (by decide +kernel) (lt_of_isPlain h) h

theorem foldKey_of_sameLetter {c d : Code} (hc : isPlain c = true) (h : sameLetter c d = true) :
    foldKey d = c := by
  rw [sameLetter, beq_iff_eq, foldKey_of_isPlain hc] at h
  exact h.symm

/-- A character is a form of one plain letter only. -/
theorem eq_of_sameLetter {c c' d : Code} (hc : isPlain c = true) (hc' : isPlain c' = true)
    (h : sameLetter c d = true) (h' : sameLetter c' d = true) : c = c' :=
  (foldKey_of_sameLetter hc h).symm.trans (foldKey_of_sameLetter hc' h')

/-! ## Forms of plain letters are word characters -/

theorem toNat_ofNat_cases (n : Nat) : (Code.ofNat n).toNat = n ∨ (Code.ofNat n).toNat = 0 := by
  by_cases h : n < 0x110000
  · exact Or.inl (Code.toNat_ofNat h)
  · have hhalf : ¬ (Code.firstHalf ≤ n ∧ n < Code.firstHalf + 0x800) := by
      simp only [Code.firstHalf]
      omega
    have hvalid : ¬ n.isValidChar := by
      simp only [Nat.isValidChar]
      omega
    rw [Code.ofNat, dif_neg hhalf]
    exact Or.inr (congrArg Char.toNat (dif_neg hvalid))

/-- Whether a code point is that of a small form that folds to a plain letter: it is ASCII, the
dotless i or the long s. -/
def foldsPlain (n : Nat) : Prop :=
  0 < n ∧ (n < 128 ∨ n = 0x131 ∨ n = 0x17F)

theorem foldsPlain_of_isPlain {d : Code} (h : isPlain (foldKey d) = true) :
    foldsPlain (smallChar d).toNat := by
  have hgroups : ∀ g ∈ foldGroups, ∀ n ∈ g.head?, isPlain (Code.ofNat n) = true → ∀ m ∈ g,
      0 < m ∧ (m < 128 ∨ m = 0x131 ∨ m = 0x17F) := by decide
  unfold foldKey at h
  split at h
  · next n rest hg =>
      have hm := List.find?_some hg
      exact hgroups _ (List.mem_of_find?_eq_some hg) n rfl h _ (List.contains_iff_mem.mp hm)
  · have hzero : (smallChar d).toNat ≠ 0 := by
      intro h0
      have hd : smallChar d = Code.ofNat 0 := by rw [← h0, Code.ofNat_toNat]
      rw [hd] at h
      exact absurd h (by decide)
    exact ⟨Nat.pos_of_ne_zero hzero, Or.inl (lt_of_isPlain h)⟩

theorem CaseRun.image?_eq_some_iff {r : CaseRun} {n m : Nat} :
    r.image? n = some m ↔
      r.first ≤ n ∧ n ≤ r.last ∧ (n - r.first) % r.step = 0 ∧ r.target + (n - r.first) = m := by
  simp only [CaseRun.image?, Option.ite_none_right_eq_some, Bool.and_eq_true, decide_eq_true_eq,
    beq_iff_eq, Option.some.injEq, and_assoc]

/-- The only run of capitals with a small form that folds to a plain letter holds just the sign for
kelvins. -/
theorem eq_kelvin_of_image? {r : CaseRun} {n m : Nat} (hr : r ∈ lowerRuns)
    (himage : r.image? n = some m) (hm : foldsPlain m) : n = 0x212A := by
  have hruns : ∀ r ∈ lowerRuns, (r.first = 0x212A ∧ r.last = 0x212A) ∨
      (128 ≤ r.target ∧ (r.target + (r.last - r.first) < 0x131 ∨ 0x131 < r.target) ∧
        (r.target + (r.last - r.first) < 0x17F ∨ 0x17F < r.target)) := by decide +kernel
  obtain ⟨hfirst, hlast, -, htarget⟩ := CaseRun.image?_eq_some_iff.mp himage
  obtain ⟨-, hm⟩ := hm
  rcases hruns r hr with h | h
  · omega
  · omega

/-- Beyond ASCII, a character is the dotted capital i, its own small form, or a capital of some run.
-/
theorem smallChar_cases {d : Code} (hd : 128 ≤ d.toNat) :
    d.toNat = 0x130 ∨ smallChar d = d ∨
      ∃ r ∈ lowerRuns, ∃ n, r.image? d.toNat = some n ∧ smallChar d = Code.ofNat n := by
  unfold smallChar lowerChar
  rw [if_neg (Nat.not_lt.mpr hd)]
  by_cases hdotted : d = '\u0130'
  · exact Or.inl (congrArg Code.toNat hdotted)
  · rw [if_neg (by simpa using hdotted)]
    cases hn : lowerRuns.findSome? (·.image? d.toNat) with
    | none => exact Or.inr (Or.inl rfl)
    | some n =>
        obtain ⟨r, hr, himage⟩ := List.exists_of_findSome?_eq_some hn
        exact Or.inr (Or.inr ⟨r, hr, n, himage, rfl⟩)

/-- Beyond ASCII, four characters are forms of a plain letter. -/
theorem mem_of_foldsPlain {d : Code} (hd : 128 ≤ d.toNat) (h : foldsPlain (smallChar d).toNat) :
    d.toNat ∈ [0x130, 0x131, 0x17F, 0x212A] := by
  rcases smallChar_cases hd with hdotted | hsmall | ⟨r, hr, n, himage, hsmall⟩
  · simp [hdotted]
  · rw [hsmall] at h
    obtain ⟨-, hlt | hdotless | hlong⟩ := h
    · omega
    · simp [hdotless]
    · simp [hlong]
  · have hn : foldsPlain n := by
      rw [hsmall] at h
      rcases toNat_ofNat_cases n with heq | hzero
      · rwa [heq] at h
      · exact absurd h.1 (by omega)
    simp [eq_kelvin_of_image? hr himage hn]

/-- Whatever a line writes for a plain letter is a word character. -/
theorem isWord_of_sameLetter {c d : Code} (hc : isPlain c = true) (h : sameLetter c d = true) :
    isWord d = true := by
  have hplain : isPlain (foldKey d) = true := by rwa [foldKey_of_sameLetter hc h]
  by_cases hd : d.toNat < 128
  · exact of_ascii (p := fun d => isPlain (foldKey d) = true → isWord d = true)
      (by decide +kernel) hd hplain
  · have hforms : ∀ n ∈ [0x130, 0x131, 0x17F, 0x212A], isWord (Code.ofNat n) = true := by
      decide +kernel
    have hword := hforms _ (mem_of_foldsPlain (Nat.not_lt.mp hd) (foldsPlain_of_isPlain hplain))
    rwa [Code.ofNat_toNat] at hword

/-! ## Blanks are no word characters -/

/-- The blanks beyond ASCII, as intervals of code points. -/
def wideBlanks : List (Nat × Nat) :=
  [(0x85, 0x85), (0xA0, 0xA0), (0x1680, 0x1680), (0x2000, 0x200A), (0x2028, 0x2029),
    (0x202F, 0x202F), (0x205F, 0x205F), (0x3000, 0x3000)]

theorem inRanges_wideBlanks {d : Code} (hd : 128 ≤ d.toNat) (h : isBlank d = true) :
    inRanges wideBlanks d = true := by
  simp only [isBlank, Bool.or_eq_true, Bool.and_eq_true, decide_eq_true_eq, beq_iff_eq] at h
  simp only [inRanges, wideBlanks, List.any_cons, List.any_nil, Bool.or_eq_true, Bool.and_eq_true,
    decide_eq_true_eq]
  omega

theorem isWord_of_isBlank {d : Code} (h : isBlank d = true) : isWord d = false := by
  by_cases hd : d.toNat < 128
  · exact of_ascii (p := fun d => isBlank d = true → isWord d = false) (by decide) hd h
  · -- No interval of blanks meets an interval of word characters.
    have hapart : ∀ b ∈ wideBlanks, ∀ r ∈ letterNumeralRanges, b.2 < r.1 ∨ r.2 < b.1 := by
      decide +kernel
    obtain ⟨b, hb, hblank⟩ := List.any_eq_true.mp (inRanges_wideBlanks (Nat.not_lt.mp hd) h)
    rw [isWord, if_neg hd, inRanges, List.any_eq_false]
    intro r hr hword
    simp only [Bool.and_eq_true, decide_eq_true_eq] at hblank hword
    rcases hapart b hb r hr with h | h
    · omega
    · omega

end Actionary
