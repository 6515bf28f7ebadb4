import Actionary.Completion.Recognition

/-!
# Keys and their phrases

The phrase of a key is the key with a blank in front of every capital but the first, in small
letters (`phraseChars_eq`). So it is a tight text: its ends are no blanks, and its blanks are single
spaces. A tight text is its words with a space between them, and a key can be read back from its
phrase but for the case of its first letter (`phrase_eq_iff`).
-/

namespace Actionary

open Actionary.Text

/-! ## ASCII characters -/

/-- A property of the ASCII characters, from their code points. -/
theorem of_ascii {p : Code → Prop} (h : ∀ n < 128, p (Code.ofNat n)) {c : Code}
    (hc : c.toNat < 128) : p c :=
  Code.ofNat_toNat c ▸ h c.toNat hc

theorem ascii_of_le {c : Char} {m : UInt32} (h : c.val ≤ m) (hm : m < 128) : c.toNat < 128 :=
  Nat.lt_of_le_of_lt (UInt32.le_iff_toNat_le.mp h) (UInt32.lt_iff_toNat_lt.mp hm)

theorem lt_of_isAlphanum {c : Code} (h : c.isAlphanum = true) : c.toNat < 128 := by
  cases c with
  | half n => exact Bool.noConfusion h
  | char c =>
      have hclasses : (c.isUpper || c.isLower || c.isDigit) = true := h
      rcases Bool.or_eq_true_iff.mp hclasses with hletter | hdigit
      · rcases Bool.or_eq_true_iff.mp hletter with hupper | hlower
        · exact ascii_of_le (of_decide_eq_true hupper).2 (by decide)
        · exact ascii_of_le (of_decide_eq_true (Bool.and_eq_true_iff.mp hlower).2) (by decide)
      · exact ascii_of_le (of_decide_eq_true (Bool.and_eq_true_iff.mp hdigit).2) (by decide)

/-- The characters of the words of a phrase. -/
def isPlain (c : Code) : Bool :=
  c.isLower || c.isDigit

theorem lt_of_isPlain {c : Code} (h : isPlain c = true) : c.toNat < 128 := by
  apply lt_of_isAlphanum
  rw [Code.isAlphanum_eq, Code.isAlpha_eq]
  rcases Bool.or_eq_true_iff.mp h with hlower | hdigit
  · rw [hlower, Bool.or_true, Bool.true_or]
  · rw [hdigit, Bool.or_true]

theorem isPlain_toLower {c : Code} (h : c.isAlphanum = true) : isPlain c.toLower = true :=
  of_ascii (p := fun c => c.isAlphanum = true → isPlain c.toLower = true) (by decide)
    (lt_of_isAlphanum h) h

theorem isBlank_of_isAlphanum {c : Code} (h : c.isAlphanum = true) : isBlank c = false :=
  of_ascii (p := fun c => c.isAlphanum = true → isBlank c = false) (by decide)
    (lt_of_isAlphanum h) h

theorem isBlank_of_isPlain {c : Code} (h : isPlain c = true) : isBlank c = false :=
  of_ascii (p := fun c => isPlain c = true → isBlank c = false) (by decide) (lt_of_isPlain h) h

theorem toUpper_toLower_of_startsWord {c : Code} (h : startsWord c = true) :
    c.toLower.toUpper = c := by
  have hc : c.toNat < 128 := by
    simp only [startsWord, Bool.and_eq_true, decide_eq_true_eq] at h
    exact Nat.lt_of_le_of_lt h.2 (by decide)
  exact of_ascii (p := fun c => startsWord c = true → c.toLower.toUpper = c) (by decide) hc h

theorem toUpper_toLower {c : Code} (h : c.isAlphanum = true) : c.toLower.toUpper = c.toUpper :=
  of_ascii (p := fun c => c.toLower.toUpper = c.toUpper) (by decide) (lt_of_isAlphanum h)

theorem toLower_toUpper {c : Code} (h : c.isAlphanum = true) : c.toUpper.toLower = c.toLower :=
  of_ascii (p := fun c => c.toUpper.toLower = c.toLower) (by decide) (lt_of_isAlphanum h)

theorem toLower_of_not_startsWord {c : Code} (ha : c.isAlphanum = true) (h : startsWord c = false) :
    c.toLower = c :=
  of_ascii (p := fun c => startsWord c = false → c.toLower = c) (by decide) (lt_of_isAlphanum ha) h

theorem ne_sigma_of_ascii {c : Code} (h : c.toNat < 128) : c ≠ 'Σ' := by
  rintro rfl
  exact absurd h (by decide)

/-- Where no sigma stands, the small form of a text is that of each character. -/
theorem lowerAfter_eq_map {cs : List Code} (h : ∀ c ∈ cs, c ≠ 'Σ' ∧ lowerChar c = [c.toLower]) :
    ∀ before, lowerAfter before cs = cs.map Code.toLower := by
  induction cs with
  | nil => exact fun _ => rfl
  | cons c cs ih =>
      intro before
      obtain ⟨⟨hsigma, hsmall⟩, hcs⟩ := List.forall_mem_cons.mp h
      rw [lowerAfter, beq_eq_false_iff_ne.mpr hsigma, hsmall, ih hcs, List.map_cons]
      rfl

theorem lower_ascii {cs : List Code} (h : ∀ c ∈ cs, c.toNat < 128) :
    lower cs = cs.map Code.toLower :=
  lowerAfter_eq_map (fun c hc => ⟨ne_sigma_of_ascii (h c hc), if_pos (h c hc)⟩) []

/-! ## Tight texts -/

/-- A text whose ends are no blanks, and whose blanks are single spaces. -/
inductive Tight : List Code → Prop
  | one {c : Code} : isBlank c = false → Tight [c]
  | next {c d : Code} {cs : List Code} : isBlank c = false → Tight (d :: cs) → Tight (c :: d :: cs)
  | gap {c : Code} {cs : List Code} : isBlank c = false → Tight cs → Tight (c :: ' ' :: cs)

namespace Tight

theorem start {cs : List Code} (h : Tight cs) : ∃ c rest, cs = c :: rest ∧ isBlank c = false := by
  cases h with
  | one hc => exact ⟨_, _, rfl, hc⟩
  | next hc _ => exact ⟨_, _, rfl, hc⟩
  | gap hc _ => exact ⟨_, _, rfl, hc⟩

theorem stop {cs : List Code} (h : Tight cs) : ∃ c rest, cs = rest ++ [c] ∧ isBlank c = false := by
  induction h with
  | @one c hc => exact ⟨c, [], rfl, hc⟩
  | @next b d cs _ _ ih =>
      obtain ⟨c, rest, hcs, hc⟩ := ih
      exact ⟨c, b :: rest, by rw [hcs]; rfl, hc⟩
  | @gap b cs _ _ ih =>
      obtain ⟨c, rest, rfl, hc⟩ := ih
      exact ⟨c, b :: ' ' :: rest, rfl, hc⟩

theorem trim_eq {cs : List Code} (h : Tight cs) : trim cs = cs := by
  obtain ⟨c, rest, hstart, hc⟩ := h.start
  have hfront : cs.dropWhile isBlank = cs := by
    rw [hstart, List.dropWhile_cons_of_neg (by simp [hc])]
  obtain ⟨d, front, hstop, hd⟩ := h.stop
  have hback : cs.reverse.dropWhile isBlank = cs.reverse := by
    rw [hstop, List.reverse_append, List.reverse_singleton, List.singleton_append,
      List.dropWhile_cons_of_neg (by simp [hd])]
  rw [trim, trimBy, hfront, hback, List.reverse_reverse]

theorem map {f : Code → Code} {cs : List Code} (h : Tight cs) (hspace : f ' ' = ' ')
    (hf : ∀ c ∈ cs, isBlank c = false → isBlank (f c) = false) : Tight (cs.map f) := by
  induction h with
  | one hc => exact .one (hf _ List.mem_cons_self hc)
  | next hc _ ih =>
      exact .next (hf _ List.mem_cons_self hc) (ih fun c hm => hf c (List.mem_cons_of_mem _ hm))
  | gap hc _ ih =>
      rw [List.map_cons, List.map_cons, hspace]
      refine .gap (hf _ List.mem_cons_self hc) (ih fun c hm => ?_)
      exact hf c (List.mem_cons_of_mem _ (List.mem_cons_of_mem _ hm))

end Tight

theorem joinedBy_cons_cons (between : List Code) (c : Code) (w : List Code)
    (ws : List (List Code)) :
    Recognizer.joinedBy between ((c :: w) :: ws) = c :: Recognizer.joinedBy between (w :: ws) := by
  cases ws with
  | nil => rfl
  | cons v rest => rfl

/-- The words of a text by its first character. Stated here since Lean takes long to derive it. -/
theorem words_cons (c : Code) (cs : List Code) :
    words (c :: cs) =
      if isBlank c then words cs
      else
        match cs with
        | [] => [[c]]
        | d :: _ =>
          if isBlank d then [c] :: words cs
          else
            match words cs with
            | [] => [[c]]
            | w :: ws => (c :: w) :: ws :=
  rfl

theorem words_cons_blank {c : Code} {cs : List Code} (h : isBlank c = true) :
    words (c :: cs) = words cs := by
  rw [words_cons]
  exact if_pos h

/-- A tight text is its words with a space between them. -/
theorem Tight.words_cases {cs : List Code} (h : Tight cs) :
    ∃ w ws, words cs = w :: ws ∧ Recognizer.joinedBy [' '] (w :: ws) = cs := by
  induction h with
  | @one c hc =>
      refine ⟨[c], [], ?_, rfl⟩
      rw [words_cons]
      exact if_neg (by rw [hc]; decide)
  | @next c d cs hc h ih =>
      obtain ⟨w, ws, hw, hj⟩ := ih
      obtain ⟨_, _, hd, hblank⟩ := h.start
      obtain ⟨rfl, rfl⟩ := List.cons.inj hd
      refine ⟨c :: w, ws, ?_, by rw [joinedBy_cons_cons, hj]⟩
      rw [words_cons, hw]
      simp [hc, hblank]
  | @gap c cs hc h ih =>
      obtain ⟨w, ws, hw, hj⟩ := ih
      have hspace : isBlank ' ' = true := by decide
      refine ⟨[c], w :: ws, ?_, ?_⟩
      · rw [words_cons, words_cons_blank hspace, hw]
        simp [hc, hspace]
      · rw [Recognizer.joinedBy, hj]
        rfl

theorem Tight.joinedBy_words {cs : List Code} (h : Tight cs) :
    Recognizer.joinedBy [' '] (words cs) = cs := by
  obtain ⟨w, ws, hw, hj⟩ := h.words_cases
  rw [hw, hj]

/-- A word is not empty, and its characters are characters of the text and no blanks. -/
theorem of_mem_words {cs w : List Code} (h : w ∈ words cs) :
    w ≠ [] ∧ ∀ c ∈ w, c ∈ cs ∧ isBlank c = false := by
  induction cs generalizing w with
  | nil => exact absurd h List.not_mem_nil
  | cons c cs ih =>
      have later : ∀ {v}, v ∈ words cs → v ≠ [] ∧ ∀ d ∈ v, d ∈ c :: cs ∧ isBlank d = false := by
        intro v hv
        exact ⟨(ih hv).1, fun d hd =>
          ⟨List.mem_cons_of_mem _ ((ih hv).2 d hd).1, ((ih hv).2 d hd).2⟩⟩
      cases hc : isBlank c with
      | true =>
          rw [words_cons_blank hc] at h
          exact later h
      | false =>
          have single : [c] ≠ [] ∧ ∀ d ∈ [c], d ∈ c :: cs ∧ isBlank d = false := by
            refine ⟨List.cons_ne_nil _ _, fun d hd => ?_⟩
            obtain rfl := List.mem_singleton.mp hd
            exact ⟨List.mem_cons_self, hc⟩
          rw [words_cons] at h
          simp only [hc, Bool.false_eq_true, ↓reduceIte] at h
          cases cs with
          | nil =>
              obtain rfl := List.mem_singleton.mp h
              exact single
          | cons d rest =>
              dsimp only at h
              split at h
              · rcases List.mem_cons.mp h with rfl | h
                · exact single
                · exact later h
              · cases hw : words (d :: rest) with
                | nil =>
                    rw [hw] at h
                    obtain rfl := List.mem_singleton.mp h
                    exact single
                | cons v vs =>
                    rw [hw] at h
                    rcases List.mem_cons.mp h with rfl | h
                    · refine ⟨List.cons_ne_nil _ _,
                        List.forall_mem_cons.mpr ⟨⟨List.mem_cons_self, hc⟩, ?_⟩⟩
                      exact (later (hw ▸ List.mem_cons_self)).2
                    · exact later (hw ▸ List.mem_cons_of_mem _ h)

/-! ## The phrase of a key -/

theorem mem_spaced {c : Code} {cs : List Code} (h : c ∈ spaced cs) : c = ' ' ∨ c ∈ cs := by
  induction cs with
  | nil => exact absurd h List.not_mem_nil
  | cons d ds ih =>
      rw [spaced] at h
      split at h
      · rcases List.mem_cons.mp h with rfl | h
        · exact Or.inl rfl
        · rcases List.mem_cons.mp h with rfl | h
          · exact Or.inr List.mem_cons_self
          · exact (ih h).imp_right (List.mem_cons_of_mem _)
      · rcases List.mem_cons.mp h with rfl | h
        · exact Or.inr List.mem_cons_self
        · exact (ih h).imp_right (List.mem_cons_of_mem _)

theorem tight_spaced {cs : List Code} :
    ∀ {c : Code}, (∀ d ∈ c :: cs, isBlank d = false) → Tight (c :: spaced cs) := by
  induction cs with
  | nil => exact fun h => .one (h _ List.mem_cons_self)
  | cons d ds ih =>
      intro c h
      obtain ⟨hc, hds⟩ := List.forall_mem_cons.mp h
      rw [spaced]
      split
      · exact .gap hc (ih hds)
      · exact .next hc (ih hds)

theorem isActionKey_cases {cs : List Code} (h : isActionKey cs = true) :
    ∃ c rest, cs = c :: rest ∧ c.isAlpha = true ∧ ∀ d ∈ c :: rest, d.isAlphanum = true := by
  cases cs with
  | nil => exact absurd h (by decide)
  | cons c rest =>
      simp only [isActionKey, Bool.and_eq_true, List.all_eq_true] at h
      refine ⟨c, rest, rfl, h.1, List.forall_mem_cons.mpr ⟨?_, h.2⟩⟩
      rw [Code.isAlphanum_eq, h.1, Bool.true_or]

theorem phraseChars_eq {c : Code} {cs : List Code} (h : ∀ d ∈ c :: cs, d.isAlphanum = true) :
    phraseChars (c :: cs) = (c :: spaced cs).map Code.toLower := by
  have htight : Tight (c :: spaced cs) :=
    tight_spaced fun d hd => isBlank_of_isAlphanum (h d hd)
  have htrim : trim (spaced (c :: cs)) = c :: spaced cs := by
    rw [spaced]
    split
    · have hspace : trim (' ' :: c :: spaced cs) = trim (c :: spaced cs) := rfl
      rw [hspace, htight.trim_eq]
    · exact htight.trim_eq
  rw [phraseChars, htrim]
  refine lower_ascii fun d hd => ?_
  rcases List.mem_cons.mp hd with rfl | hd
  · exact lt_of_isAlphanum (h d List.mem_cons_self)
  · rcases mem_spaced hd with rfl | hd
    · decide
    · exact lt_of_isAlphanum (h d (List.mem_cons_of_mem _ hd))

theorem spaced_cons_ne_nil (c : Code) (cs : List Code) : spaced (c :: cs) ≠ [] := by
  rw [spaced]
  split
  · exact List.cons_ne_nil _ _
  · exact List.cons_ne_nil _ _

/-- A name can be read back from its spaced small form: a space tells a capital. -/
theorem spaced_toLower_inj {cs : List Code} (hcs : ∀ c ∈ cs, c.isAlphanum = true) :
    ∀ {ds : List Code}, (∀ d ∈ ds, d.isAlphanum = true) →
      (spaced cs).map Code.toLower = (spaced ds).map Code.toLower → cs = ds := by
  have hplain : ∀ {c : Code}, c.isAlphanum = true → c.toLower ≠ ' ' := by
    intro c hc heq
    exact absurd (isPlain_toLower hc) (by rw [heq]; decide)
  have hspace : Code.toLower ' ' = ' ' := by decide
  induction cs with
  | nil =>
      intro ds hds h
      cases ds with
      | nil => rfl
      | cons d ds => exact absurd (List.map_eq_nil_iff.mp h.symm) (spaced_cons_ne_nil d ds)
  | cons c cs ih =>
      obtain ⟨hc, hcs⟩ := List.forall_mem_cons.mp hcs
      intro ds hds h
      cases ds with
      | nil => exact absurd (List.map_eq_nil_iff.mp h) (spaced_cons_ne_nil c cs)
      | cons d ds =>
          obtain ⟨hd, hds⟩ := List.forall_mem_cons.mp hds
          rw [spaced, spaced] at h
          cases hcw : startsWord c with
          | true =>
              cases hdw : startsWord d with
              | true =>
                  simp only [hcw, hdw, ↓reduceIte, List.map_cons, List.cons.injEq, true_and] at h
                  have hcd : c = d := by
                    rw [← toUpper_toLower_of_startsWord hcw, h.1, toUpper_toLower_of_startsWord hdw]
                  rw [hcd, ih hcs hds h.2]
              | false =>
                  simp only [hcw, hdw, ↓reduceIte, Bool.false_eq_true, List.map_cons, hspace,
                    List.cons.injEq] at h
                  exact absurd h.1.symm (hplain hd)
          | false =>
              cases hdw : startsWord d with
              | true =>
                  simp only [hcw, hdw, ↓reduceIte, Bool.false_eq_true, List.map_cons, hspace,
                    List.cons.injEq] at h
                  exact absurd h.1 (hplain hc)
              | false =>
                  simp only [hcw, hdw, ↓reduceIte, Bool.false_eq_true, List.map_cons,
                    List.cons.injEq] at h
                  have hcd : c = d := by
                    rw [← toLower_of_not_startsWord hc hcw, h.1, toLower_of_not_startsWord hd hdw]
                  rw [hcd, ih hcs hds h.2]

namespace ActionKey

/-- The phrase of a key by the letters of the key. -/
theorem phrase_cases (k : ActionKey) :
    ∃ c cs, k.text.toList = c :: cs ∧ c.isAlpha = true ∧ (∀ d ∈ c :: cs, d.isAlphanum = true) ∧
      k.phrase.toList = (c :: spaced cs).map Code.toLower := by
  obtain ⟨c, cs, hk, hc, hall⟩ := isActionKey_cases k.valid
  refine ⟨c, cs, hk, hc, hall, ?_⟩
  rw [phrase, phraseOf, hk, phraseChars_eq hall, Text.toList_ofList]

theorem isPlain_of_mem_phrase {k : ActionKey} {c : Code} (h : c ∈ k.phrase.toList) :
    c = ' ' ∨ isPlain c = true := by
  obtain ⟨b, cs, -, -, hall, hp⟩ := k.phrase_cases
  rw [hp] at h
  obtain ⟨d, hd, rfl⟩ := List.mem_map.mp h
  rcases List.mem_cons.mp hd with rfl | hd
  · exact Or.inr (isPlain_toLower (hall d List.mem_cons_self))
  · rcases mem_spaced hd with rfl | hd
    · exact Or.inl (by decide)
    · exact Or.inr (isPlain_toLower (hall d (List.mem_cons_of_mem _ hd)))

theorem tight_phrase (k : ActionKey) : Tight k.phrase.toList := by
  obtain ⟨c, cs, -, -, hall, hp⟩ := k.phrase_cases
  rw [hp]
  have htight : Tight (c :: spaced cs) :=
    tight_spaced fun d hd => isBlank_of_isAlphanum (hall d hd)
  refine htight.map (by decide) fun d hd hblank => ?_
  rcases List.mem_cons.mp hd with rfl | hd
  · exact isBlank_of_isPlain (isPlain_toLower (hall d List.mem_cons_self))
  · rcases mem_spaced hd with rfl | hd
    · exact absurd hblank (by decide)
    · exact isBlank_of_isPlain (isPlain_toLower (hall d (List.mem_cons_of_mem _ hd)))

theorem words_phrase_ne_nil (k : ActionKey) : words k.phrase.toList ≠ [] := by
  obtain ⟨w, ws, hw, -⟩ := k.tight_phrase.words_cases
  rw [hw]
  exact List.cons_ne_nil _ _

/-- The words of a phrase are not empty, and are made of small letters and digits. -/
theorem of_mem_words_phrase {k : ActionKey} {w : List Code} (h : w ∈ words k.phrase.toList) :
    w ≠ [] ∧ ∀ c ∈ w, isPlain c = true := by
  obtain ⟨hw, hc⟩ := of_mem_words h
  refine ⟨hw, fun c hm => ?_⟩
  rcases isPlain_of_mem_phrase (hc c hm).1 with rfl | hp
  · exact absurd (hc ' ' hm).2 (by decide)
  · exact hp

/-- **Two keys have one phrase exactly if they differ at most in the case of their first letter.**
-/
theorem phrase_eq_iff (k l : ActionKey) :
    k.phrase = l.phrase ↔ capitalized k.text.toList = capitalized l.text.toList := by
  obtain ⟨c, cs, hk, hc, hcs, hp⟩ := k.phrase_cases
  obtain ⟨d, ds, hl, hd, hds, hq⟩ := l.phrase_cases
  have hupper : ∀ {c : Code}, c.isAlphanum = true → upperChar c = [c.toUpper] := by
    intro c hc
    rw [upperChar, if_pos (lt_of_isAlphanum hc)]
  have hca := hcs c List.mem_cons_self
  have hda := hds d List.mem_cons_self
  rw [← Text.toList_inj, hp, hq, hk, hl, capitalized, capitalized, hupper hca, hupper hda]
  simp only [List.map_cons, List.cons.injEq, List.singleton_append]
  constructor
  · rintro ⟨h, hrest⟩
    refine ⟨?_, spaced_toLower_inj (fun e he => hcs e (List.mem_cons_of_mem _ he))
      (fun e he => hds e (List.mem_cons_of_mem _ he)) hrest⟩
    rw [← toUpper_toLower hca, h, toUpper_toLower hda]
  · rintro ⟨h, rfl⟩
    refine ⟨?_, rfl⟩
    rw [← toLower_toUpper hca, h, toLower_toUpper hda]

end ActionKey

end Actionary
