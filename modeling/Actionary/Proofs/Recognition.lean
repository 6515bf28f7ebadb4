import Actionary.Proofs.Occurrence
import Actionary.Proofs.PatternShapes

/-!
# Recognition finds the first and longest phrase

The recognizer of a catalog tries longer phrases before shorter ones and takes the first that fits.
Of the phrases that occur at one place the words of one start with the words of the other, so the
longest of them is the one with the most words, and a search gives the leftmost place with its
longest phrase.
-/

namespace Actionary

open Actionary.Text Actionary.Pattern

/-! ## Words as patterns -/

theorem same_full (c d : Code) : CaseRule.full.same c.toNat d = sameLetter c d := by
  simp [CaseRule.same, Code.ofNat_toNat]

theorem mem_ways_blanks {s t : Cursor} :
    t ∈ Recognizer.blanks.ways s ↔
      ∃ gap rest, s.after = gap ++ rest ∧ (∀ c ∈ gap, isBlank c = true) ∧ gap ≠ [] ∧
        t = s.past gap rest := by
  have hholds : ∀ c, (Test.set false .exact [.named .blank false false]).holds c = isBlank c := by
    intro c
    simp [Test.holds, Item.holds, CaseRule.small, CharClass.holds]
  rw [Recognizer.blanks, Expr.mem_ways_many_greedy]
  simp only [hholds, Nat.one_le_iff_ne_zero, ne_eq, List.length_eq_zero_iff]

theorem mem_ways_word {w : List Code} {s t : Cursor} :
    t ∈ (Expr.text .full w).ways s ↔ ∃ u rest, s.after = u ++ rest ∧ Forms w u ∧
    t = s.past u rest := by
  rw [Expr.mem_ways_text]
  simp only [same_full]

/-- The pattern of words fits the texts that spell the words. -/
theorem mem_ways_wordsExpr {ws : List (List Code)} (hws : ws ≠ []) :
    ∀ {s t : Cursor}, t ∈ (Recognizer.wordsExpr ws).ways s ↔
      ∃ text rest, s.after = text ++ rest ∧ Spelled ws text ∧ t = s.past text rest := by
  induction ws with
  | nil => exact absurd rfl hws
  | cons w ws ih =>
      intro s t
      cases ws with
      | nil =>
          rw [Recognizer.wordsExpr, mem_ways_word]
          constructor
          · rintro ⟨u, rest, hs, hu, rfl⟩
            exact ⟨u, rest, hs, .one hu, rfl⟩
          · rintro ⟨u, rest, hs, hu, rfl⟩
            cases hu with
            | one hu => exact ⟨u, rest, hs, hu, rfl⟩
            | more _ _ _ htail => exact absurd rfl htail.ne_nil
      | cons v ws =>
          have ih := @ih (List.cons_ne_nil _ _)
          change t ∈ ((Expr.text .full w).ways s).flatMap (fun m =>
            (Recognizer.blanks.ways m).flatMap (Recognizer.wordsExpr (v :: ws)).ways) ↔ _
          simp only [List.mem_flatMap]
          constructor
          · rintro ⟨m, hm, m', hm', ht⟩
            obtain ⟨u, rest, hs, hu, rfl⟩ := mem_ways_word.mp hm
            obtain ⟨gap, rest', hrest, hgap, hne, rfl⟩ := mem_ways_blanks.mp hm'
            obtain ⟨text, rest'', hrest', htext, rfl⟩ := ih.mp ht
            rw [Cursor.past_after] at hrest hrest'
            refine ⟨u ++ (gap ++ text), rest'', ?_, .more hu hne hgap htext, ?_⟩
            · rw [hs, hrest, hrest']
              simp only [List.append_assoc]
            · rw [Cursor.past_past, Cursor.past_past]
          · rintro ⟨text, rest, hs, htext, rfl⟩
            cases htext with
            | @more _ u gap text _ hu hne hgap htext =>
                refine ⟨s.past u (gap ++ (text ++ rest)), mem_ways_word.mpr ⟨u, _, ?_, hu, rfl⟩,
                  s.past (u ++ gap) (text ++ rest),
                    mem_ways_blanks.mpr ⟨gap, _, rfl, hgap, hne, ?_⟩,
                  ih.mpr ⟨text, rest, rfl, htext, ?_⟩⟩
                · rw [hs]
                  simp only [List.append_assoc]
                · rw [Cursor.past_past]
                · rw [Cursor.past_past, List.append_assoc]

/-! ## Boundaries -/

theorem boundary_holds_iff (s : Cursor) :
    (Anchor.boundary false).holds s = true ↔ WordBoundary s.before.reverse s.after := by
  have hbefore : s.afterWord false = endsInWord s.before.reverse := by
    rw [endsInWord, List.getLast?_reverse, Cursor.afterWord]
    cases s.before with
    | nil => rfl
    | cons c cs => rfl
  have hafter : s.beforeWord false = startsWith isWord s.after := by
    rw [startsWith, Cursor.beforeWord]
    cases s.after with
    | nil => rfl
    | cons c cs => rfl
  rw [Anchor.holds, bne_iff_ne, hbefore, hafter, WordBoundary]

theorem boundary_holds_between_iff {before after : List Code} :
    (Anchor.boundary false).holds (.between before.reverse after) = true ↔
      WordBoundary before after := by
  rw [boundary_holds_iff]
  simp only [Cursor.between, List.reverse_reverse]

theorem ways_boundary_flatMap (s : Cursor) (f : Cursor → List Cursor) :
    ((Expr.anchor (.boundary false)).ways s).flatMap f =
      if (Anchor.boundary false).holds s then f s else [] := by
  rw [Expr.ways]
  split
  · exact List.flatMap_singleton f s
  · rfl

/-! ## The order of the phrases -/

theorem tryFirst_trans (a b c : Text) (hab : Recognizer.tryFirst a b = true)
    (hbc : Recognizer.tryFirst b c = true) : Recognizer.tryFirst a c = true := by
  simp only [Recognizer.tryFirst, textBefore, Bool.or_eq_true, Bool.and_eq_true, decide_eq_true_eq,
    beq_iff_eq] at hab hbc ⊢
  rcases hab with hab | ⟨hab, hle⟩
  · left
    omega
  · rcases hbc with hbc | ⟨hbc, hle'⟩
    · left
      omega
    · exact Or.inr ⟨hab.trans hbc, Text.le_trans hle hle'⟩

theorem tryFirst_total (a b : Text) :
    (Recognizer.tryFirst a b || Recognizer.tryFirst b a) = true := by
  simp only [Recognizer.tryFirst, textBefore, Bool.or_eq_true, Bool.and_eq_true, decide_eq_true_eq,
    beq_iff_eq]
  rcases Nat.lt_trichotomy a.length b.length with h | h | h
  · exact Or.inr (Or.inl h)
  · rcases Text.le_total a b with hle | hle
    · exact Or.inl (Or.inr ⟨h, hle⟩)
    · exact Or.inr (Or.inr ⟨h.symm, hle⟩)
  · exact Or.inl (Or.inl h)

theorem length_le_of_tryFirst {a b : Text} (h : Recognizer.tryFirst a b = true) :
    b.length ≤ a.length := by
  simp only [Recognizer.tryFirst, Bool.or_eq_true, Bool.and_eq_true, decide_eq_true_eq,
    beq_iff_eq] at h
  omega

theorem mem_phrases {s : Snapshot} {phrase : Text} :
    phrase ∈ Recognizer.phrases s ↔ ∃ a ∈ s.actions, a.phrase = phrase := by
  rw [Recognizer.phrases, List.mem_mergeSort, List.mem_eraseDups, List.mem_map]

theorem pairwise_phrases (s : Snapshot) :
    (Recognizer.phrases s).Pairwise fun a b => b.length ≤ a.length :=
  (List.pairwise_mergeSort tryFirst_trans tryFirst_total _).imp length_le_of_tryFirst

/-! ## Where the pattern of a catalog fits -/

/-- The ways a phrase fits with a word boundary behind it. -/
def phraseWays (before after : List Code) (phrase : Text) : List Cursor :=
  ((Recognizer.wordsExpr (words phrase.toList)).waysAt before after).filter
    (Anchor.holds · (.boundary false))

theorem flatMap_ways_boundary (places : List Cursor) :
    places.flatMap (Expr.seqAll [.anchor (.boundary false)]).ways =
      places.filter (Anchor.holds · (.boundary false)) := by
  induction places with
  | nil => rfl
  | cons t ts ih =>
      rw [List.flatMap_cons, ih, List.filter_cons]
      change (if (Anchor.boundary false).holds t then [t] else []) ++ _ = _
      split
      · rfl
      · rfl

/-- The pattern of a catalog fits as its phrases do, one after another in their order. -/
theorem waysAt_ofCatalog (s : Snapshot) {before after : List Code} (h : WordBoundary before after) :
    (Recognizer.ofCatalog s).expr.waysAt before after =
      (Recognizer.phrases s).flatMap (phraseWays before after) := by
  rw [Recognizer.ofCatalog]
  cases Recognizer.phrases s with
  | nil => rfl
  | cons p ps =>
      rw [Expr.waysAt, Expr.ways_seqAll_cons, ways_boundary_flatMap,
        if_pos (boundary_holds_between_iff.mpr h), Expr.ways_seqAll_cons, Expr.ways_altAll,
        flatMap_ways_boundary, List.filter_flatMap, List.map_map, List.flatMap_map]
      rfl

theorem wordBoundary_of_mem_waysAt {s : Snapshot} {before after : List Code} {t : Cursor}
    (h : t ∈ (Recognizer.ofCatalog s).expr.waysAt before after) : WordBoundary before after := by
  rw [Recognizer.ofCatalog] at h
  split at h
  · exact absurd h List.not_mem_nil
  · rw [Expr.waysAt, Expr.ways_seqAll_cons, ways_boundary_flatMap] at h
    split at h
    · next hstart => exact boundary_holds_between_iff.mp hstart
    · exact absurd h List.not_mem_nil

theorem mem_phraseWays {a : Action} {before after : List Code} {t : Cursor}
    (hstart : WordBoundary before after) :
    t ∈ phraseWays before after a.phrase ↔
      ∃ text rest, after = text ++ rest ∧ Occurs a.phrase before text rest ∧
        t = (Cursor.between before.reverse after).past text rest := by
  have hwords : words a.phrase.toList ≠ [] := a.key.words_phrase_ne_nil
  have hstop : ∀ text rest, (Anchor.boundary false).holds
      ((Cursor.between before.reverse after).past text rest) = true ↔
        WordBoundary (before ++ text) rest := by
    intro text rest
    rw [boundary_holds_iff, Cursor.past_before, Cursor.past_after]
    simp [Cursor.between]
  rw [phraseWays, List.mem_filter, Expr.waysAt, mem_ways_wordsExpr hwords]
  constructor
  · rintro ⟨⟨text, rest, hafter, hspelled, rfl⟩, hboundary⟩
    refine ⟨text, rest, hafter, ⟨hspelled, ?_, (hstop text rest).mp hboundary⟩, rfl⟩
    rwa [show after = text ++ rest from hafter] at hstart
  · rintro ⟨text, rest, hafter, hoccurs, rfl⟩
    exact ⟨⟨text, rest, hafter, hoccurs.spelled, rfl⟩, (hstop text rest).mpr hoccurs.stops⟩

/-- Where no phrase occurs, the pattern of a catalog does not fit, and conversely. -/
theorem waysAt_ofCatalog_eq_nil_iff {s : Snapshot} {before after : List Code} :
    (Recognizer.ofCatalog s).expr.waysAt before after = [] ↔
      ∀ a ∈ s.actions, ∀ text rest, after = text ++ rest → ¬ Occurs a.phrase before text rest := by
  rw [List.eq_nil_iff_forall_not_mem]
  constructor
  · intro hnone a ha text rest hafter hoccurs
    have hstart : WordBoundary before after := hafter ▸ hoccurs.starts
    apply hnone ((Cursor.between before.reverse after).past text rest)
    rw [waysAt_ofCatalog s hstart, List.mem_flatMap]
    exact ⟨a.phrase, mem_phrases.mpr ⟨a, ha, rfl⟩,
      (mem_phraseWays hstart).mpr ⟨text, rest, hafter, hoccurs, rfl⟩⟩
  · intro hnone t ht
    have hstart := wordBoundary_of_mem_waysAt ht
    rw [waysAt_ofCatalog s hstart, List.mem_flatMap] at ht
    obtain ⟨phrase, hphrase, ht⟩ := ht
    obtain ⟨a, ha, rfl⟩ := mem_phrases.mp hphrase
    obtain ⟨text, rest, hafter, hoccurs, -⟩ := (mem_phraseWays hstart).mp ht
    exact hnone a ha text rest hafter hoccurs

/-- The first way the pattern of a catalog fits is an occurrence of a phrase, and no phrase that
occurs there is longer. -/
theorem head?_waysAt_ofCatalog {s : Snapshot} {before after : List Code} {t : Cursor}
    (h : ((Recognizer.ofCatalog s).expr.waysAt before after).head? = some t) :
    ∃ a ∈ s.actions, (∃ text rest, after = text ++ rest ∧ Occurs a.phrase before text rest ∧
        t = (Cursor.between before.reverse after).past text rest) ∧
      ∀ b ∈ s.actions, ∀ text rest, after = text ++ rest → Occurs b.phrase before text rest →
        b.phrase.length ≤ a.phrase.length := by
  have hstart := wordBoundary_of_mem_waysAt (List.mem_of_mem_head? h)
  rw [waysAt_ofCatalog s hstart, List.head?_flatMap] at h
  obtain ⟨tried, phrase, later, hphrases, hhead, htried⟩ := List.findSome?_eq_some_iff.mp h
  have hphrase : phrase ∈ Recognizer.phrases s := by
    rw [hphrases]
    exact List.mem_append_right _ List.mem_cons_self
  obtain ⟨a, ha, rfl⟩ := mem_phrases.mp hphrase
  refine ⟨a, ha, (mem_phraseWays hstart).mp (List.mem_of_mem_head? hhead), ?_⟩
  intro b hb text rest hafter hoccurs
  have hb : b.phrase ∈ tried ++ a.phrase :: later := by
    rw [← hphrases]
    exact mem_phrases.mpr ⟨b, hb, rfl⟩
  have hway := (mem_phraseWays hstart).mpr ⟨text, rest, hafter, hoccurs, rfl⟩
  -- What was tried before `a` does not fit, and what comes after it is not longer.
  rcases List.mem_append.mp hb with hbefore | hb
  · rw [List.head?_eq_none_iff.mp (htried _ hbefore)] at hway
    exact absurd hway List.not_mem_nil
  · rcases List.mem_cons.mp hb with heq | hlater
    · exact Nat.le_of_eq (congrArg Text.length heq)
    · have hpairs := pairwise_phrases s
      rw [hphrases] at hpairs
      exact (List.pairwise_cons.mp (List.pairwise_append.mp hpairs).2.1).1 _ hlater

/-! ## Search -/

theorem find?_ofCatalog (s : Snapshot) (line : List Code) :
    (Recognizer.ofCatalog s).find? line = (Recognizer.ofCatalog s).expr.search line := by
  have hsought : (Recognizer.ofCatalog s).sought = none := by
    rw [Recognizer.ofCatalog]
    split
    · rfl
    · rfl
  rw [Recognizer.find?, hsought]

theorem find?_ofCatalog_eq_none_iff (s : Snapshot) (line : List Code) :
    (Recognizer.ofCatalog s).find? line = none ↔
      ∀ a ∈ s.actions, ∀ index text, ¬ OccursAt a.phrase line index text := by
  rw [find?_ofCatalog, Expr.search_eq_none_iff]
  simp only [waysAt_ofCatalog_eq_nil_iff]
  constructor
  · rintro hnone a ha index text ⟨before, after, hline, -, hoccurs⟩
    exact hnone before (text ++ after) hline a ha text after rfl hoccurs
  · rintro hnone before after hline a ha text rest rfl hoccurs
    exact hnone a ha before.length text ⟨before, rest, hline, rfl, hoccurs⟩

/-- What is found is an occurrence of a phrase. No phrase occurs before it, and none that occurs
there is longer. -/
theorem find?_ofCatalog_eq_some {s : Snapshot} {line : List Code} {f : Found}
    (h : (Recognizer.ofCatalog s).find? line = some f) :
    (∀ a ∈ s.actions, ∀ index text, OccursAt a.phrase line index text → f.start ≤ index) ∧
      ∃ a ∈ s.actions, ∃ before after, line = before ++ (f.text ++ after) ∧
        before.length = f.start ∧ Occurs a.phrase before f.text after ∧
        ∀ b ∈ s.actions, ∀ text rest, f.text ++ after = text ++ rest →
          Occurs b.phrase before text rest → b.phrase.length ≤ a.phrase.length := by
  rw [find?_ofCatalog] at h
  obtain ⟨before, after, t, rfl, hhead, rfl, hearlier⟩ := Expr.search_eq_some h
  obtain ⟨a, ha, ⟨text, rest, rfl, hoccurs, rfl⟩, hlongest⟩ := head?_waysAt_ofCatalog hhead
  have htext : (Expr.foundAt before (text ++ rest)
      ((Cursor.between before.reverse (text ++ rest)).past text rest)).text = text :=
    Cursor.textTo_past rfl
  rw [htext]
  refine ⟨?_, a, ha, before, rest, rfl, rfl, hoccurs, hlongest⟩
  rintro b hb index other ⟨before', after', hline, rfl, hother⟩
  apply Nat.le_of_not_lt
  intro hlt
  exact waysAt_ofCatalog_eq_nil_iff.mp (hearlier before' (other ++ after') hline hlt)
    b hb other after' rfl hother

/-- **Recognition is leftmost-longest.** The recognizer of a catalog finds something on a line if
and only if the phrase of some action occurs there. What it finds starts at the first index at which
one occurs, and is the occurrence of the phrase with the most words among those at that index. -/
theorem find?_ofCatalog_leftmost_longest (s : Snapshot) (line : List Code) :
    ((Recognizer.ofCatalog s).find? line = none ↔
        ∀ a ∈ s.actions, ∀ index text, ¬ OccursAt a.phrase line index text) ∧
      ∀ f, (Recognizer.ofCatalog s).find? line = some f →
        (∀ a ∈ s.actions, ∀ index text, OccursAt a.phrase line index text → f.start ≤ index) ∧
        ∃ a ∈ s.actions, OccursAt a.phrase line f.start f.text ∧
          ∀ b ∈ s.actions, ∀ text, OccursAt b.phrase line f.start text →
            (words b.phrase.toList).length ≤ (words a.phrase.toList).length ∧
              ((words b.phrase.toList).length = (words a.phrase.toList).length →
                text = f.text) := by
  refine ⟨find?_ofCatalog_eq_none_iff s line, fun f hf => ?_⟩
  obtain ⟨hfirst, a, ha, before, after, hline, hstart, hoccurs, hlongest⟩ :=
    find?_ofCatalog_eq_some hf
  refine ⟨hfirst, a, ha, ⟨before, after, hline, hstart, hoccurs⟩, ?_⟩
  rintro b hb text ⟨before', after', hline', hstart', hother⟩
  obtain ⟨rfl, hafter⟩ := List.append_inj (hline.symm.trans hline') (hstart.trans hstart'.symm)
  exact Occurs.words_length_le (k := a.key) (l := b.key) hoccurs hother hafter
    (hlongest b hb text after' hafter hother)

end Actionary
