import Actionary.Proofs.Occurrence

/-!
# Phrases as they are typed

A phrase may be typed in ASCII letters of either case, with any blanks between its words (`Typed`).
Lowering and splitting such a text gives the words back (`Typed.words_lower`), and the words of a
phrase with a capital in front of each are the key with a capital in front
(`flatMap_capitalized_words`). So the key of a phrase can be read back from any way to type it, but
for the case of its first letter (`ActionKey.keyChars_of_typed`).

That case is lost for good: whatever text a key is read from, the key does not start with a small
ASCII letter (`startsWith_isLower_keyChars`).
-/

namespace Actionary

open Actionary.Text

/-! ## Small forms -/

theorem toLower_of_not_ascii {c : Code} (h : 128 ≤ c.toNat) : c.toLower = c := by
  cases c with
  | half n => rfl
  | char c =>
      have hrange : ¬ (c.val ≥ 'A'.val ∧ c.val ≤ 'Z'.val) := fun hc =>
        absurd (ascii_of_le hc.2 (by decide)) (Nat.not_lt.mpr h)
      exact congrArg Code.char (dif_neg hrange)

theorem toLower_of_isBlank {c : Code} (h : isBlank c = true) : c.toLower = c := by
  by_cases hc : c.toNat < 128
  · exact of_ascii (p := fun c => isBlank c = true → c.toLower = c) (by decide) hc h
  · exact toLower_of_not_ascii (Nat.not_lt.mp hc)

theorem toLower_of_isPlain {c : Code} (h : isPlain c = true) : c.toLower = c :=
  of_ascii (p := fun c => isPlain c = true → c.toLower = c) (by decide) (lt_of_isPlain h) h

theorem map_toLower_eq_self {cs : List Code} (h : ∀ c ∈ cs, c.toLower = c) :
    cs.map Code.toLower = cs :=
  (List.map_congr_left h).trans (List.map_id cs)

theorem map_toLower_blanks {gap : List Code} (h : ∀ c ∈ gap, isBlank c = true) :
    gap.map Code.toLower = gap :=
  map_toLower_eq_self fun c hc => toLower_of_isBlank (h c hc)

/-- A blank has no other form. -/
theorem lowerChar_of_isBlank {c : Code} (h : isBlank c = true) : lowerChar c = [c] := by
  by_cases hc : c.toNat < 128
  · rw [lowerChar, if_pos hc, toLower_of_isBlank h]
  · -- No interval of blanks meets a run of capitals.
    have hruns : ∀ b ∈ wideBlanks, ∀ r ∈ lowerRuns, b.2 < r.first ∨ r.last < b.1 := by
      decide +kernel
    have hdotted : ∀ b ∈ wideBlanks, b.2 < 0x130 ∨ 0x130 < b.1 := by decide
    obtain ⟨b, hb, hblank⟩ := List.any_eq_true.mp (inRanges_wideBlanks (Nat.not_lt.mp hc) h)
    simp only [Bool.and_eq_true, decide_eq_true_eq] at hblank
    have hne : (c == 'İ') = false := by
      rw [beq_eq_false_iff_ne]
      rintro rfl
      have hcode : ('İ' : Code).toNat = 0x130 := rfl
      rcases hdotted b hb with hlt | hlt
      · omega
      · omega
    have hnone : lowerRuns.findSome? (·.image? c.toNat) = none := by
      rw [List.findSome?_eq_none_iff]
      intro r hr
      rw [CaseRun.image?, if_neg]
      simp only [Bool.and_eq_true, decide_eq_true_eq]
      rcases hruns b hb r hr with hlt | hlt
      · omega
      · omega
    rw [lowerChar, if_neg hc, hne, hnone]
    rfl

/-- The small form of a text of ASCII characters and blanks. -/
theorem lower_of_ascii_or_blank {cs : List Code} (h : ∀ c ∈ cs, c.toNat < 128 ∨ isBlank c = true) :
    lower cs = cs.map Code.toLower := by
  refine lowerAfter_eq_map (fun c hc => ?_) []
  rcases h c hc with hascii | hblank
  · exact ⟨ne_sigma_of_ascii hascii, if_pos hascii⟩
  · refine ⟨?_, by rw [lowerChar_of_isBlank hblank, toLower_of_isBlank hblank]⟩
    rintro rfl
    exact absurd hblank (by decide)

/-! ## Words of a text -/

theorem startsWith_blanks {gap : List Code} (h : ∀ c ∈ gap, isBlank c = true) :
    startsWith (!isBlank ·) gap = false := by
  cases gap with
  | nil => rfl
  | cons c gap => simp [startsWith, h c List.mem_cons_self]

theorem words_blanks_append {gap : List Code} (h : ∀ c ∈ gap, isBlank c = true) (cs : List Code) :
    words (gap ++ cs) = words cs := by
  induction gap with
  | nil => rfl
  | cons c gap ih =>
      obtain ⟨hc, hgap⟩ := List.forall_mem_cons.mp h
      rw [List.cons_append, words_cons_blank hc, ih hgap]

/-- A word is cut off where a blank or nothing follows. -/
theorem words_word_append {w r : List Code} (hne : w ≠ []) (hw : ∀ c ∈ w, isBlank c = false)
    (hr : startsWith (!isBlank ·) r = false) : words (w ++ r) = w :: words r := by
  induction w with
  | nil => exact absurd rfl hne
  | cons c w ih =>
      obtain ⟨hc, hw⟩ := List.forall_mem_cons.mp hw
      rw [List.cons_append, words_cons, if_neg (by rw [hc]; decide)]
      cases w with
      | nil =>
          cases r with
          | nil => rfl
          | cons d r =>
              have hd : isBlank d = true := by simpa [startsWith] using hr
              exact if_pos hd
      | cons d w =>
          have hd := hw d List.mem_cons_self
          rw [ih (List.cons_ne_nil _ _) hw]
          exact if_neg (by rw [hd]; decide)

/-- The first word of a text that starts with no blank starts with its first character. -/
theorem words_cons_cases {c : Code} (h : isBlank c = false) (cs : List Code) :
    ∃ w ws, words (c :: cs) = (c :: w) :: ws := by
  rw [words_cons, if_neg (by rw [h]; decide)]
  cases cs with
  | nil => exact ⟨[], [], rfl⟩
  | cons d cs =>
      dsimp only
      split
      · exact ⟨[], _, rfl⟩
      · cases words (d :: cs) with
        | nil => exact ⟨[], [], rfl⟩
        | cons w ws => exact ⟨w, ws, rfl⟩

/-! ## Typed words -/

/-- A text types words: the words in order, each letter as an ASCII letter of either case, with
blanks between the words. -/
inductive Typed : List (List Code) → List Code → Prop
  | one {w u : List Code} : u.map Code.toLower = w → Typed [w] u
  | more {w u gap text : List Code} {ws : List (List Code)} :
      u.map Code.toLower = w → gap ≠ [] → (∀ c ∈ gap, isBlank c = true) → Typed ws text →
        Typed (w :: ws) (u ++ (gap ++ text))

theorem ascii_of_isPlain_toLower {c : Code} (h : isPlain c.toLower = true) : c.toNat < 128 := by
  apply Nat.lt_of_not_le
  intro hc
  rw [toLower_of_not_ascii hc] at h
  exact absurd (lt_of_isPlain h) (Nat.not_lt.mpr hc)

theorem forall_mem_of_map_toLower {w u : List Code} (hu : u.map Code.toLower = w)
    (hw : ∀ c ∈ w, isPlain c = true) : ∀ c ∈ u, isPlain c.toLower = true := by
  intro c hc
  apply hw
  rw [← hu]
  exact List.mem_map_of_mem hc

theorem forms_of_map_toLower {w u : List Code} (hu : u.map Code.toLower = w)
    (hw : ∀ c ∈ w, isPlain c = true) : Forms w u := by
  have hplain := forall_mem_of_map_toLower hu hw
  subst hu
  rw [Forms, List.forall₂_map_left_iff, List.forall₂_same]
  intro c hc
  exact of_ascii (p := fun c => isPlain c.toLower = true → sameLetter c.toLower c = true)
    (by decide +kernel) (ascii_of_isPlain_toLower (hplain c hc)) (hplain c hc)

namespace Typed

variable {ws : List (List Code)} {text : List Code}

theorem spelled (h : Typed ws text) (hws : PlainWords ws) : Spelled ws text := by
  induction h with
  | one hu => exact .one (forms_of_map_toLower hu (hws _ List.mem_cons_self).2)
  | more hu hne hgap _ ih =>
      obtain ⟨⟨-, hw⟩, hws⟩ := List.forall_mem_cons.mp hws
      exact .more (forms_of_map_toLower hu hw) hne hgap (ih hws)

theorem ascii_or_blank (h : Typed ws text) (hws : PlainWords ws) :
    ∀ c ∈ text, c.toNat < 128 ∨ isBlank c = true := by
  induction h with
  | one hu =>
      obtain ⟨-, hw⟩ := hws _ List.mem_cons_self
      exact fun c hc => Or.inl (ascii_of_isPlain_toLower (forall_mem_of_map_toLower hu hw c hc))
  | more hu _ hgap _ ih =>
      obtain ⟨⟨-, hw⟩, hws⟩ := List.forall_mem_cons.mp hws
      intro c hc
      rcases List.mem_append.mp hc with hc | hc
      · exact Or.inl (ascii_of_isPlain_toLower (forall_mem_of_map_toLower hu hw c hc))
      · rcases List.mem_append.mp hc with hc | hc
        · exact Or.inr (hgap c hc)
        · exact ih hws c hc

/-- **Typed words can be read back.** -/
theorem words_lower (h : Typed ws text) (hws : PlainWords ws) : words (lower text) = ws := by
  rw [lower_of_ascii_or_blank (h.ascii_or_blank hws)]
  induction h with
  | one hu =>
      obtain ⟨hne, hw⟩ := hws _ List.mem_cons_self
      have hword := words_word_append (r := []) hne (fun c hc => isBlank_of_isPlain (hw c hc)) rfl
      rw [List.append_nil] at hword
      rw [hu, hword]
      rfl
  | @more w u gap text ws hu hgapne hgap htail ih =>
      obtain ⟨⟨hne, hw⟩, hws⟩ := List.forall_mem_cons.mp hws
      have hstart : startsWith (!isBlank ·) (gap ++ text.map Code.toLower) = false := by
        rw [startsWith_append hgapne, startsWith_blanks hgap]
      rw [List.map_append, List.map_append, hu, map_toLower_blanks hgap,
        words_word_append hne (fun c hc => isBlank_of_isPlain (hw c hc)) hstart,
        words_blanks_append hgap, ih hws]

/-- Words with a space between them are typed as they stand. -/
theorem joinedBy (hne : ws ≠ []) (hws : PlainWords ws) :
    Typed ws (Recognizer.joinedBy [' '] ws) := by
  have hsmall : ∀ {w : List Code}, (∀ c ∈ w, isPlain c = true) → w.map Code.toLower = w := by
    intro w hw
    exact map_toLower_eq_self fun c hc => toLower_of_isPlain (hw c hc)
  induction ws with
  | nil => exact absurd rfl hne
  | cons w ws ih =>
      obtain ⟨⟨-, hw⟩, hws⟩ := List.forall_mem_cons.mp hws
      cases ws with
      | nil => exact .one (hsmall hw)
      | cons v ws =>
          rw [Recognizer.joinedBy, List.append_assoc]
          have hspace : ∀ c ∈ [.char ' '], isBlank c = true := List.all_eq_true.mp (by decide)
          exact .more (hsmall hw) (List.cons_ne_nil _ _) hspace (ih (List.cons_ne_nil _ _) hws)

end Typed

theorem ActionKey.typed_phrase (k : ActionKey) : Typed (words k.phrase.toList) k.phrase.toList := by
  have h := Typed.joinedBy k.words_phrase_ne_nil k.plainWords_phrase
  rwa [k.tight_phrase.joinedBy_words] at h

/-! ## The key of a typed phrase -/

theorem capitalized_cons_of_isPlain {c : Code} (h : isPlain c = true) (cs : List Code) :
    capitalized (c :: cs) = c.toUpper :: cs := by
  rw [capitalized, upperChar, if_pos (lt_of_isPlain h)]
  rfl

/-- The words of a spaced name, each with a capital in front, are the name with a capital in front.
-/
theorem flatMap_capitalized_words {cs : List Code} (hcs : ∀ d ∈ cs, d.isAlphanum = true) :
    ∀ {c : Code}, isPlain c = true →
      (words (c :: (spaced cs).map Code.toLower)).flatMap capitalized = c.toUpper :: cs := by
  -- A capital of the name starts the next word; any other character goes on with the first one.
  induction cs with
  | nil =>
      intro c hc
      have hword : words [c] = [[c]] := by
        rw [words_cons]
        exact if_neg (by rw [isBlank_of_isPlain hc]; decide)
      rw [show (spaced []).map Code.toLower = [] from rfl, hword, List.flatMap_singleton,
        capitalized_cons_of_isPlain hc]
  | cons d cs ih =>
      intro c hc
      obtain ⟨hd, hcs⟩ := List.forall_mem_cons.mp hcs
      have hdplain := isPlain_toLower hd
      have hrest := ih hcs hdplain
      rw [spaced]
      cases hword : startsWord d with
      | true =>
          have hcut : words ([c] ++ .char ' ' :: d.toLower :: (spaced cs).map Code.toLower) =
              [c] :: words (' ' :: d.toLower :: (spaced cs).map Code.toLower) :=
            words_word_append (List.cons_ne_nil _ _) (by simp [isBlank_of_isPlain hc]) rfl
          rw [if_pos rfl, List.map_cons, List.map_cons]
          change (words ([c] ++ .char ' ' :: d.toLower :: (spaced cs).map Code.toLower)).flatMap
            capitalized = _
          rw [hcut, words_cons_blank (by decide), List.flatMap_cons, hrest,
            capitalized_cons_of_isPlain hc, toUpper_toLower_of_startsWord hword]
          rfl
      | false =>
          have hsame := toLower_of_not_startsWord hd hword
          rw [hsame] at hrest hdplain
          rw [if_neg (by simp), List.map_cons, hsame]
          obtain ⟨w, ws, hws⟩ := words_cons_cases (isBlank_of_isPlain hdplain)
            ((spaced cs).map Code.toLower)
          have hcut : words (c :: d :: (spaced cs).map Code.toLower) = (c :: d :: w) :: ws := by
            rw [words_cons, if_neg (by rw [isBlank_of_isPlain hc]; decide), hws]
            exact if_neg (by rw [isBlank_of_isPlain hdplain]; decide)
          rw [hws, List.flatMap_cons, capitalized_cons_of_isPlain hdplain,
            List.cons_append] at hrest
          rw [hcut, List.flatMap_cons, capitalized_cons_of_isPlain hc, List.cons_append,
            List.cons_append, (List.cons.inj hrest).2]

namespace ActionKey

/-- **The key of a typed phrase** is the key of the phrase with a capital in front. -/
theorem keyChars_of_typed {k : ActionKey} {text : List Code}
    (h : Typed (words k.phrase.toList) text) : keyChars text = capitalized k.text.toList := by
  obtain ⟨c, cs, hk, -, hall, hp⟩ := k.phrase_cases
  obtain ⟨hc, hcs⟩ := List.forall_mem_cons.mp hall
  rw [keyChars, h.words_lower k.plainWords_phrase, hp, List.map_cons,
    flatMap_capitalized_words hcs (isPlain_toLower hc), toUpper_toLower hc, hk, capitalized,
    upperChar, if_pos (lt_of_isAlphanum hc)]
  rfl

/-- Whether a key starts with a capital. -/
def startsCapital (k : ActionKey) : Bool :=
  startsWith Code.isUpper k.text.toList

theorem capitalized_eq_self {k : ActionKey} (h : k.startsCapital = true) :
    capitalized k.text.toList = k.text.toList := by
  obtain ⟨c, cs, hk, -, hall, -⟩ := k.phrase_cases
  have hc := lt_of_isAlphanum (hall c List.mem_cons_self)
  rw [startsCapital, hk] at h
  have hupper : c.toUpper = c :=
    of_ascii (p := fun c => c.isUpper = true → c.toUpper = c) (by decide) hc h
  rw [hk, capitalized, upperChar, if_pos hc, hupper]
  rfl

/-- A key starts with a capital, or else with a small letter. -/
theorem startsWith_isLower_of_not_startsCapital {k : ActionKey} (h : k.startsCapital = false) :
    startsWith Code.isLower k.text.toList = true := by
  obtain ⟨c, cs, hk, halpha, hall, -⟩ := k.phrase_cases
  have hc := lt_of_isAlphanum (hall c List.mem_cons_self)
  rw [startsCapital, hk] at h
  rw [hk]
  exact of_ascii (p := fun c => c.isAlpha = true → c.isUpper = false → c.isLower = true)
    (by decide) hc halpha h

end ActionKey

/-! ## Keys that are read from a text -/

theorem isLower_eq_false {c : Code} (h : c.toNat < 0x61 ∨ 0x7A < c.toNat) : c.isLower = false := by
  cases c with
  | half n => rfl
  | char c =>
      rw [Bool.eq_false_iff]
      intro hlower
      have hbounds : (c.val ≥ 'a'.val && c.val ≤ 'z'.val) = true := hlower
      obtain ⟨hfirst, hlast⟩ := Bool.and_eq_true_iff.mp hbounds
      have hle : 0x61 ≤ c.toNat := UInt32.le_iff_toNat_le.mp (of_decide_eq_true hfirst)
      have hge : c.toNat ≤ 0x7A := UInt32.le_iff_toNat_le.mp (of_decide_eq_true hlast)
      rw [Code.toNat_char] at h
      omega

theorem isLower_ofNat {n : Nat} (h : n < 0x61 ∨ 0x7A < n) : (Code.ofNat n).isLower = false := by
  apply isLower_eq_false
  rcases toNat_ofNat_cases n with heq | hzero
  · omega
  · omega

/-- A capital form is not empty, and does not start with a small ASCII letter. -/
theorem upperChar_cases (c : Code) : ∃ d cs, upperChar c = d :: cs ∧ d.isLower = false := by
  by_cases hc : c.toNat < 128
  · refine ⟨c.toUpper, [], if_pos hc, ?_⟩
    exact of_ascii (p := fun c => c.toUpper.isLower = false) (by decide) hc
  · unfold upperChar
    rw [if_neg hc]
    split
    · next s hs =>
        have hsequences : ∀ s ∈ upperSequences, s.2 ≠ [] ∧ ∀ n ∈ s.2, n < 0x61 ∨ 0x7A < n := by
          decide +kernel
        obtain ⟨hne, hcodes⟩ := hsequences s (List.mem_of_find?_eq_some hs)
        obtain ⟨n, ns, hn⟩ := List.exists_cons_of_ne_nil hne
        refine ⟨Code.ofNat n, ns.map Code.ofNat, by rw [hn]; rfl, isLower_ofNat (hcodes n ?_)⟩
        rw [hn]
        exact List.mem_cons_self
    · split
      · next n hn =>
          have hruns : ∀ r ∈ upperRuns, r.target + (r.last - r.first) < 0x61 ∨ 0x7A < r.target := by
            decide +kernel
          obtain ⟨r, hr, himage⟩ := List.exists_of_findSome?_eq_some hn
          refine ⟨Code.ofNat n, [], rfl, isLower_ofNat ?_⟩
          simp only [CaseRun.image?, Option.ite_none_right_eq_some, Bool.and_eq_true,
            decide_eq_true_eq, Option.some.injEq] at himage
          rcases hruns r hr with h | h
          · omega
          · omega
      · exact ⟨c, [], rfl, isLower_eq_false (by omega)⟩

/-- **A key that is read from a text does not start with a small letter.** -/
theorem startsWith_isLower_keyChars (text : List Code) :
    startsWith Code.isLower (keyChars text) = false := by
  rw [keyChars]
  cases hwords : words (lower text) with
  | nil => rfl
  | cons w ws =>
      have hne : w ≠ [] := (of_mem_words (hwords ▸ List.mem_cons_self)).1
      obtain ⟨c, cs, rfl⟩ := List.exists_cons_of_ne_nil hne
      obtain ⟨d, ds, hd, hlower⟩ := upperChar_cases c
      rw [List.flatMap_cons, capitalized, hd]
      exact hlower

end Actionary
