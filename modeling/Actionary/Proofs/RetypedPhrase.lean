import Actionary.Proofs.TypedPhrase

/-!
# Keys and phrases undo each other

A phrase may be typed again in other letters: each ASCII letter in either case, each space as any
blanks, and any blanks around it all (`Retyped`, `RetypedInBlanks`). None of this changes its words
once they are lowered (`Retyped.words_eq`), so the key that is read from such a text is the key of
the phrase, but for the case of its first letter, which the phrase does not tell
(`keyOf_retyped_phrase`).
-/

namespace Actionary

open Actionary.Text

/-- A text typed again, character by character: a space as blanks, and anything else as it stands
or, if it is an ASCII letter, in the other case. -/
inductive Retyped : List Code → List Code → Prop
  | nil : Retyped [] []
  | letter {c d : Code} {cs ds : List Code} : c ≠ ' ' → d.toLower = c.toLower → Retyped cs ds →
      Retyped (c :: cs) (d :: ds)
  | space {gap cs ds : List Code} : gap ≠ [] → (∀ c ∈ gap, isBlank c = true) → Retyped cs ds →
      Retyped (' ' :: cs) (gap ++ ds)

/-- A text typed again with blanks, or nothing, around it. -/
def RetypedInBlanks (phrase text : Text) : Prop :=
  ∃ front body back, text.toList = front ++ (body ++ back) ∧ (∀ c ∈ front, isBlank c = true) ∧
    (∀ c ∈ back, isBlank c = true) ∧ Retyped phrase.toList body

/-! ## Words -/

/-- What follows a character matters to the words only by its own words, and by whether a word goes
on there. -/
theorem words_cons_congr (c : Code) {xs ys : List Code} (hwords : words xs = words ys)
    (hstart : startsWith (!isBlank ·) xs = startsWith (!isBlank ·) ys) :
    words (c :: xs) = words (c :: ys) := by
  have hcut : ∀ {zs : List Code}, isBlank c = false → startsWith (!isBlank ·) zs = false →
      words (c :: zs) = [c] :: words zs := by
    intro zs hc hzs
    exact words_word_append (w := [c]) (List.cons_ne_nil _ _) (by simp [hc]) hzs
  cases hc : isBlank c with
  | true => rw [words_cons_blank hc, words_cons_blank hc, hwords]
  | false =>
      cases hxs : startsWith (!isBlank ·) xs with
      | false => rw [hcut hc hxs, hcut hc (hstart ▸ hxs), hwords]
      | true =>
          cases xs with
          | nil => exact absurd hxs Bool.false_ne_true
          | cons d xs =>
              cases ys with
              | nil => exact absurd (hstart.symm.trans hxs) Bool.false_ne_true
              | cons e ys =>
                  have hd : isBlank d = false := by simpa [startsWith] using hxs
                  have he : isBlank e = false := by simpa [startsWith] using hstart.symm.trans hxs
                  rw [words_cons c (d :: xs), words_cons c (e :: ys), hwords]
                  simp [hc, hd, he]

namespace Retyped

variable {cs ds : List Code}

/-- **Typing a text again keeps its words**, and whether it starts with one, in small letters and
whatever blanks follow. -/
theorem words_eq (h : Retyped cs ds) (hcs : ∀ c ∈ cs, c = ' ' ∨ isPlain c = true) {back : List Code}
    (hback : ∀ c ∈ back, isBlank c = true) :
    words (ds.map Code.toLower ++ back) = words cs ∧
      startsWith (!isBlank ·) (ds.map Code.toLower ++ back) = startsWith (!isBlank ·) cs := by
  induction h with
  | nil =>
      refine ⟨?_, startsWith_blanks hback⟩
      have hnone := words_blanks_append hback []
      rwa [List.append_nil] at hnone
  | @letter c d cs ds hspace hletter _ ih =>
      obtain ⟨hc, hcs⟩ := List.forall_mem_cons.mp hcs
      have hplain := hc.resolve_left hspace
      have hsmall : d.toLower = c := by
        rw [hletter, toLower_of_isPlain hplain]
      obtain ⟨hwords, hstart⟩ := ih hcs
      rw [List.map_cons, hsmall, List.cons_append]
      exact ⟨words_cons_congr c hwords hstart, rfl⟩
  | @space gap cs ds hne hgap _ ih =>
      obtain ⟨hwords, -⟩ := ih (List.forall_mem_cons.mp hcs).2
      have hblank : isBlank ' ' = true := by decide
      rw [List.map_append, map_toLower_blanks hgap, List.append_assoc]
      constructor
      · rw [words_blanks_append hgap, words_cons_blank hblank, hwords]
      · rw [startsWith_append hne, startsWith_blanks hgap]
        rfl

theorem ascii_or_blank (h : Retyped cs ds) (hcs : ∀ c ∈ cs, c = ' ' ∨ isPlain c = true) :
    ∀ d ∈ ds, d.toNat < 128 ∨ isBlank d = true := by
  induction h with
  | nil => exact fun d hd => absurd hd List.not_mem_nil
  | @letter c d cs ds hspace hletter _ ih =>
      obtain ⟨hc, hcs⟩ := List.forall_mem_cons.mp hcs
      have hplain := hc.resolve_left hspace
      refine List.forall_mem_cons.mpr ⟨Or.inl ?_, ih hcs⟩
      apply ascii_of_isPlain_toLower
      rw [hletter, toLower_of_isPlain hplain]
      exact hplain
  | @space gap cs ds _ hgap _ ih =>
      intro d hd
      rcases List.mem_append.mp hd with hd | hd
      · exact Or.inr (hgap d hd)
      · exact ih (List.forall_mem_cons.mp hcs).2 d hd

end Retyped

/-! ## Keys -/

namespace ActionKey

/-- The text of a key with its first letter in upper case. -/
def capitalText (k : ActionKey) : Text :=
  Text.ofList (k.text.toList.modifyHead Code.toUpper)

theorem capitalized_eq (k : ActionKey) : capitalized k.text.toList = k.capitalText.toList := by
  obtain ⟨c, cs, hk, -, hall, -⟩ := k.phrase_cases
  rw [capitalText, Text.toList_ofList, hk, capitalized, upperChar,
    if_pos (lt_of_isAlphanum (hall c List.mem_cons_self))]
  rfl

theorem words_lower_of_retyped {k : ActionKey} {text : Text} (h : RetypedInBlanks k.phrase text) :
    words (lower text.toList) = words k.phrase.toList := by
  obtain ⟨front, body, back, htext, hfront, hback, hbody⟩ := h
  have hplain : ∀ c ∈ k.phrase.toList, c = ' ' ∨ isPlain c = true :=
    fun c hc => isPlain_of_mem_phrase hc
  have hascii : ∀ c ∈ text.toList, c.toNat < 128 ∨ isBlank c = true := by
    intro c hc
    rw [htext, List.mem_append, List.mem_append] at hc
    rcases hc with hc | hc | hc
    · exact Or.inr (hfront c hc)
    · exact hbody.ascii_or_blank hplain c hc
    · exact Or.inr (hback c hc)
  rw [lower_of_ascii_or_blank hascii, htext, List.map_append, List.map_append,
    map_toLower_blanks hfront, map_toLower_blanks hback, words_blanks_append hfront]
  exact (hbody.words_eq hplain hback).1

/-- **Keys and phrases undo each other but for the case of the first letter.** From any way to type
the phrase of a key the key is read back with its first letter in upper case, so two keys have one
phrase exactly if they are the same with their first letters in upper case. -/
theorem keyOf_retyped_phrase :
    (∀ (k : ActionKey) (text : Text), RetypedInBlanks k.phrase text → keyOf text = k.capitalText) ∧
      ∀ k l : ActionKey, k.phrase = l.phrase ↔ k.capitalText = l.capitalText := by
  constructor
  · intro k text h
    have hkey : keyChars text.toList = keyChars k.phrase.toList := by
      rw [keyChars, keyChars, words_lower_of_retyped h,
        k.typed_phrase.words_lower k.plainWords_phrase]
    rw [keyOf, hkey, keyChars_of_typed k.typed_phrase, k.capitalized_eq, Text.ofList_toList]
  · intro k l
    rw [phrase_eq_iff, k.capitalized_eq, l.capitalized_eq, Text.toList_inj]

/-- A key that starts with a small letter, typed with a wide space in front, two blanks in its gap
and a line end behind it: the key that is read starts with a capital, as does another key of the
same phrase. -/
theorem keyOf_retyped_goX2 :
    RetypedInBlanks (ActionKey.mk "goX2" (by decide)).phrase "\u3000gO\t\u2003X2\n" ∧
      keyOf "\u3000gO\t\u2003X2\n" = "GoX2" ∧
      (ActionKey.mk "goX2" (by decide)).phrase = (ActionKey.mk "GoX2" (by decide)).phrase := by
  have hretyped : RetypedInBlanks (ActionKey.mk "goX2" (by decide)).phrase
      "\u3000gO\t\u2003X2\n" := by
    refine ⟨['\u3000'], ['g', 'O', '\t', '\u2003', 'X', '2'], ['\n'], by decide,
      List.all_eq_true.mp (by decide), List.all_eq_true.mp (by decide), ?_⟩
    have hphrase : (ActionKey.mk "goX2" (by decide)).phrase.toList =
        [.char 'g', .char 'o', .char ' ', .char 'x', .char '2'] := by
      decide +kernel
    have hx2 : Retyped ['x', '2'] ['X', '2'] :=
      .letter (by decide) (by decide) (.letter (by decide) (by decide) .nil)
    rw [hphrase]
    have hgap : ([.char '\t', .char '\u2003'] : List Code) ≠ [] := List.cons_ne_nil _ _
    exact .letter (by decide) (by decide) (.letter (by decide) (by decide)
      (.space hgap (List.all_eq_true.mp (by decide)) hx2))
  obtain ⟨hkey, hphrase⟩ := keyOf_retyped_phrase
  exact ⟨hretyped, (hkey _ _ hretyped).trans (by decide), (hphrase _ _).mpr (by decide)⟩

end ActionKey

end Actionary
