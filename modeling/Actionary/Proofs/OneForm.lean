import Actionary.Proofs.Letters

/-!
# Characters in one form

Most characters have no other form in small or capital letters. A character may still be the small
form of another one, so that it has no other form has to be read off both tables:

    d --lowerRuns--> c      the image of a run of capitals ...
    c --upperRuns--> e      ... is moved by a run of small letters, or has a sequence as its capital

Hence such a character is the same letter as itself only (`sameLetter_iff_eq`).
-/

namespace Actionary

open Actionary.Text

/-! ## The tables of capital letters -/

/-- Whether the tables of capital letters hold a code point. -/
def hasCapital (n : Nat) : Bool :=
  upperSequences.any (·.1 == n) || upperRuns.any fun u => (u.image? n).isSome

theorem hasCapital_of_run {u : CaseRun} {n m : Nat} (hu : u ∈ upperRuns) (h : u.image? n = some m) :
    hasCapital n = true := by
  rw [hasCapital, Bool.or_eq_true]
  exact Or.inr (List.any_eq_true.mpr ⟨u, hu, by rw [h, Option.isSome_some]⟩)

theorem ofNat_ne {c : Code} {n : Nat} (hc : c.toNat ≠ 0) (hn : n ≠ c.toNat) : Code.ofNat n ≠ c := by
  rintro rfl
  rcases toNat_ofNat_cases n with h | h
  · exact hn h.symm
  · exact hc h

/-- No entry of the tables leaves a character as it is. -/
theorem comesInCases_of_hasCapital {c : Code} (hc : 128 ≤ c.toNat) (h : hasCapital c.toNat = true) :
    comesInCases c = true := by
  have hsequences : ∀ s ∈ upperSequences, ∃ n ∈ s.2.head?, n ≠ s.1 := by decide +kernel
  have hruns : ∀ u ∈ upperRuns, u.target ≠ u.first := by decide +kernel
  suffices hcapital : capitalChar c ≠ c by simp [comesInCases, hcapital]
  unfold capitalChar upperChar
  rw [if_neg (Nat.not_lt.mpr hc)]
  cases hs : upperSequences.find? (·.1 == c.toNat) with
  | some s =>
      obtain ⟨n, hn, hne⟩ := hsequences s (List.mem_of_find?_eq_some hs)
      have hfirst : s.1 = c.toNat := by simpa using List.find?_some hs
      obtain ⟨rest, hrest⟩ := List.head?_eq_some_iff.mp hn
      dsimp only
      rw [hrest, List.map_cons]
      exact ofNat_ne (by omega) (hfirst ▸ hne)
  | none =>
      cases hu : upperRuns.findSome? (·.image? c.toNat) with
      | some n =>
          obtain ⟨u, hmem, himage⟩ := List.exists_of_findSome?_eq_some hu
          obtain ⟨hfirst, -, -, htarget⟩ := CaseRun.image?_eq_some_iff.mp himage
          have hmoved := hruns u hmem
          exact ofNat_ne (by omega) (by omega)
      | none =>
          rw [List.find?_eq_none] at hs
          rw [List.findSome?_eq_none_iff] at hu
          rw [hasCapital, Bool.or_eq_true] at h
          rcases h with h | h
          · obtain ⟨s, hmem, heq⟩ := List.any_eq_true.mp h
            exact absurd heq (hs s hmem)
          · obtain ⟨u, hmem, heq⟩ := List.any_eq_true.mp h
            rw [hu u hmem] at heq
            exact absurd heq (by simp)

/-! ## Small forms -/

/-- Whether a run holds all images of another. -/
def coversImages (u r : CaseRun) : Bool :=
  u.first ≤ r.target && r.target + (r.last - r.first) ≤ u.last &&
    (r.target - u.first) % u.step == 0 && r.step % u.step == 0

theorem exists_image?_of_coversImages {u r : CaseRun} {n m : Nat} (h : coversImages u r = true)
    (himage : r.image? n = some m) : ∃ k, u.image? m = some k := by
  simp only [coversImages, Bool.and_eq_true, decide_eq_true_eq, beq_iff_eq] at h
  obtain ⟨⟨⟨hstart, hstop⟩, htarget⟩, hsteps⟩ := h
  obtain ⟨hfirst, hlast, hstep, hm⟩ := CaseRun.image?_eq_some_iff.mp himage
  have hsum : m - u.first = (r.target - u.first) + (n - r.first) := by omega
  have hon : u.step ∣ m - u.first := by
    rw [hsum]
    exact Nat.dvd_add (Nat.dvd_of_mod_eq_zero htarget)
      (Nat.dvd_trans (Nat.dvd_of_mod_eq_zero hsteps) (Nat.dvd_of_mod_eq_zero hstep))
  exact ⟨_, CaseRun.image?_eq_some_iff.mpr
    ⟨by omega, by omega, Nat.mod_eq_zero_of_dvd hon, rfl⟩⟩

/-- Beyond ASCII, what is a small form has a capital form. -/
theorem hasCapital_of_image? {r : CaseRun} {n m : Nat} (hr : r ∈ lowerRuns)
    (himage : r.image? n = some m) (hm : 128 ≤ m) : hasCapital m = true := by
  -- The images of most runs lie on one run; those of a few are looked up one by one.
  have hruns : ∀ r ∈ lowerRuns, r.target + (r.last - r.first) < 128 ∨
      upperRuns.any (coversImages · r) = true ∨
        ∀ k < (r.last - r.first) / r.step + 1, hasCapital (r.target + k * r.step) = true := by
    decide +kernel
  obtain ⟨hfirst, hlast, hstep, htarget⟩ := CaseRun.image?_eq_some_iff.mp himage
  rcases hruns r hr with hsmall | hcovered | hpoints
  · omega
  · obtain ⟨u, hu, hcovers⟩ := List.any_eq_true.mp hcovered
    obtain ⟨k, hk⟩ := exists_image?_of_coversImages hcovers himage
    exact hasCapital_of_run hu hk
  · have hpoint := hpoints ((n - r.first) / r.step)
      (Nat.lt_succ_of_le (Nat.div_le_div_right (by omega)))
    rwa [Nat.div_mul_cancel (Nat.dvd_of_mod_eq_zero hstep), htarget] at hpoint

/-- The images of the runs are code points. -/
theorem toNat_ofNat_of_image? {r : CaseRun} {n m : Nat} (hr : r ∈ lowerRuns)
    (himage : r.image? n = some m) : 0 < m ∧ (Code.ofNat m).toNat = m := by
  have hruns : ∀ r ∈ lowerRuns, 0 < r.target ∧ r.target + (r.last - r.first) < 0x110000 := by
    decide +kernel
  obtain ⟨hfirst, hlast, -, htarget⟩ := CaseRun.image?_eq_some_iff.mp himage
  obtain ⟨hpos, hbound⟩ := hruns r hr
  exact ⟨by omega, Code.toNat_ofNat (by omega)⟩

/-- What is the small form of another character comes in cases. -/
theorem smallChar_eq_self {d : Code} (h : comesInCases (smallChar d) = false) :
    smallChar d = d := by
  by_cases hd : d.toNat < 128
  · exact of_ascii (p := fun d => comesInCases (smallChar d) = false → smallChar d = d)
      (by decide +kernel) hd h
  · -- The dotted capital i and the sign for kelvins have small forms in ASCII.
    have hforms : ∀ n ∈ [0x130, 0x212A], comesInCases (smallChar (Code.ofNat n)) = true := by
      decide +kernel
    have hform : d.toNat ∉ [0x130, 0x212A] := by
      intro hmem
      have hcases := hforms _ hmem
      rw [Code.ofNat_toNat, h] at hcases
      exact Bool.false_ne_true hcases
    rcases smallChar_cases (Nat.not_lt.mp hd) with hdotted | hsmall | ⟨r, hr, n, himage, hsmall⟩
    · exact absurd (by simp [hdotted]) hform
    · exact hsmall
    · obtain ⟨hpos, hn⟩ := toNat_ofNat_of_image? hr himage
      by_cases hwide : 128 ≤ n
      · have hcases : comesInCases (Code.ofNat n) = true := by
          refine comesInCases_of_hasCapital (hn.symm ▸ hwide) ?_
          rw [hn]
          exact hasCapital_of_image? hr himage hwide
        rw [hsmall, hcases] at h
        exact absurd h.symm Bool.false_ne_true
      · have hkelvin := eq_kelvin_of_image? hr himage ⟨hpos, Or.inl (Nat.not_le.mp hwide)⟩
        exact absurd (by simp [hkelvin]) hform

/-! ## The same letter -/

theorem comesInCases_of_mem_foldGroups {g : List Nat} {n : Nat} (hg : g ∈ foldGroups) (hn : n ∈ g) :
    comesInCases (Code.ofNat n) = true := by
  have hgroups : ∀ g ∈ foldGroups, ∀ n ∈ g, n ∈ [0x69, 0x73] ∨
      ((Code.ofNat n).toNat = n ∧ 128 ≤ n ∧ hasCapital n = true) := by decide +kernel
  have hascii : ∀ n ∈ [0x69, 0x73], comesInCases (Code.ofNat n) = true := by decide
  rcases hgroups g hg n hn with hmem | ⟨hvalid, hwide, hcapital⟩
  · exact hascii n hmem
  · exact comesInCases_of_hasCapital (hvalid.symm ▸ hwide) (hvalid.symm ▸ hcapital)

/-- A character in one form is in no group of small letters, nor does a group stand for it. -/
theorem foldKey_eq_iff {c d : Code} (hc : comesInCases c = false) :
    foldKey d = c ↔ smallChar d = c := by
  unfold foldKey
  cases hg : foldGroups.find? (·.contains (smallChar d).toNat) with
  | none => rfl
  | some g =>
      have hmem := List.mem_of_find?_eq_some hg
      have hfound := List.find?_some hg
      have hd : (smallChar d).toNat ∈ g := List.contains_iff_mem.mp hfound
      have hsmall : smallChar d ≠ c := by
        rintro rfl
        have hcases := comesInCases_of_mem_foldGroups hmem hd
        rw [Code.ofNat_toNat, hc] at hcases
        exact Bool.false_ne_true hcases
      cases g with
      | nil => exact absurd hd List.not_mem_nil
      | cons n rest =>
          have hhead : Code.ofNat n ≠ c := by
            rintro rfl
            have hcases := comesInCases_of_mem_foldGroups hmem List.mem_cons_self
            rw [hc] at hcases
            exact Bool.false_ne_true hcases
          exact iff_of_false hhead hsmall

/-- A character in one form is the same letter as itself only. -/
theorem sameLetter_iff_eq {c d : Code} (hc : comesInCases c = false) :
    sameLetter c d = true ↔ c = d := by
  have hsmall : smallChar c = c := by
    simp only [comesInCases, Bool.or_eq_false_iff, bne_eq_false_iff_eq] at hc
    exact hc.1
  rw [sameLetter, beq_iff_eq, (foldKey_eq_iff hc).mpr hsmall, eq_comm, foldKey_eq_iff hc, eq_comm]
  constructor
  · rintro rfl
    exact smallChar_eq_self hc
  · rintro rfl
    exact hsmall.symm

end Actionary
