import Actionary.Completion.Flag
import Actionary.Proofs.Recognition

/-!
# Lists of flags in a text

Two tests look for a list of flags before the cursor. `endsInFlagList` goes back to the last opening
mark and asks whether a closing mark follows it. `startedFlagPattern` asks for an opening mark with
two dashes somewhere behind it, and does not ask for closing marks.

Both are told here by the marks alone: `LastList` is the text behind the last opening mark, and
`StartsFlag` a cut of the text around any opening mark.
-/

namespace Actionary

open Actionary.Text Actionary.Pattern

/-! ## Occurrences of a mark -/

theorem occursIn_iff (mark text : List Code) : occursIn mark text = true ↔ mark <:+: text := by
  induction text with
  | nil => simp [occursIn]
  | cons c cs ih =>
      rw [occursIn, Bool.or_eq_true, List.isPrefixOf_iff_prefix, ih, List.infix_cons_iff]

theorem afterLast?_eq_none_iff {mark : List Code} (hmark : mark ≠ []) (text : List Code) :
    afterLast? mark text = none ↔ ¬ mark <:+: text := by
  induction text with
  | nil => simpa [afterLast?] using hmark
  | cons c cs ih =>
      rw [afterLast?, List.infix_cons_iff, not_or, ← ih, ← List.isPrefixOf_iff_prefix]
      cases afterLast? mark cs with
      | some rest => simp
      | none => simp

/-! ## The last list -/

/-- What stands behind the last mark in a text that opens a list of flags. -/
def LastList (text rest : List Code) : Prop :=
  (∃ before, text = before ++ openMark ++ rest) ∧ ¬ openMark <:+: rest

theorem lastList_of_afterLast? {text rest : List Code} (h : afterLast? openMark text = some rest) :
    LastList text rest := by
  induction text with
  | nil => exact absurd h (by simp [afterLast?])
  | cons c cs ih =>
      rw [afterLast?] at h
      cases hcs : afterLast? openMark cs with
      | some later =>
          rw [hcs] at h
          obtain rfl := Option.some.inj h
          obtain ⟨⟨before, rfl⟩, hlast⟩ := ih hcs
          exact ⟨⟨c :: before, rfl⟩, hlast⟩
      | none =>
          rw [hcs] at h
          simp only [Option.ite_none_right_eq_some, Option.some.injEq] at h
          obtain ⟨hmark, rfl⟩ := h
          obtain ⟨rest, hrest⟩ := List.isPrefixOf_iff_prefix.mp hmark
          rw [← hrest, List.drop_left]
          refine ⟨⟨[], rfl⟩, fun hin => ?_⟩
          -- Behind the mark is a part of what follows its first character.
          have htail : openMark.tail ++ rest = cs := (List.cons.inj hrest).2
          refine (afterLast?_eq_none_iff (by decide) cs).mp hcs ?_
          rw [← htail]
          exact hin.trans (List.suffix_append _ _).isInfix

theorem afterLast?_of_lastList {text rest : List Code} (h : LastList text rest) :
    afterLast? openMark text = some rest := by
  obtain ⟨⟨before, rfl⟩, hlast⟩ := h
  have hnone := (afterLast?_eq_none_iff (by decide) rest).mpr hlast
  induction before with
  | nil =>
      -- The mark does not overlap itself, so none starts inside it.
      have hdollar : afterLast? openMark ('$' :: rest) = none := by
        rw [afterLast?, hnone]
        rfl
      have hbrace : afterLast? openMark ('{' :: '$' :: rest) = none := by
        rw [afterLast?, hdollar]
        rfl
      show afterLast? openMark ('{' :: '{' :: '$' :: rest) = some rest
      rw [afterLast?, hbrace]
      rfl
  | cons c cs ih =>
      rw [List.cons_append, List.cons_append, afterLast?, ih]

theorem exists_lastList {text : List Code} (h : openMark <:+: text) :
    ∃ rest, LastList text rest := by
  cases hl : afterLast? openMark text with
  | none => exact absurd h ((afterLast?_eq_none_iff (by decide) text).mp hl)
  | some rest => exact ⟨rest, lastList_of_afterLast? hl⟩

/-- A text ends in a list of flags exactly if its last list is not closed. -/
theorem endsInFlagList_iff_of_lastList {text rest : List Code} (h : LastList text rest) :
    endsInFlagList text = true ↔ ¬ closeMark <:+: rest := by
  rw [endsInFlagList, afterLast?_of_lastList h, ← occursIn_iff]
  simp

/-! ## A started flag -/

/-- A flag is started in a text: an opening mark, all blanks behind it, anything on the line, two
dashes. -/
def StartsFlag (text : List Code) : Prop :=
  ∃ before gap between rest : List Code,
    text = before ++ (openMark ++ (gap ++ (between ++ ([.char '-', .char '-'] ++ rest)))) ∧
      gap ≠ [] ∧ (∀ c ∈ gap, isBlank c = true) ∧ startsWith isBlank between = false ∧
      .char '\n' ∉ between

theorem forall_holds_sameLine {text : List Code} :
    (∀ c ∈ text, Test.sameLine.holds c = true) ↔ .char '\n' ∉ text := by
  simp only [Test.holds, bne_iff_ne, ne_eq]
  exact ⟨fun h hmem => h _ hmem rfl, fun h c hc heq => h (heq ▸ hc)⟩

/-- The blanks that the pattern reads need not be all of them. -/
theorem exists_mem_ways_startedFlagPattern {s : Cursor} :
    (∃ t, t ∈ startedFlagPattern.ways s) ↔
      ∃ gap between rest : List Code,
        s.after = openMark ++ (gap ++ (between ++ ([.char '-', .char '-'] ++ rest))) ∧
        gap ≠ [] ∧ (∀ c ∈ gap, isBlank c = true) ∧ .char '\n' ∉ between := by
  simp only [startedFlagPattern, Expr.ways_seqAll_cons, List.mem_flatMap]
  constructor
  · rintro ⟨t, opened, hopened, gapped, hgapped, reached, hreached, dashed, hdashed, -⟩
    obtain ⟨_, hs, rfl⟩ := Expr.mem_ways_text_exact.mp hopened
    obtain ⟨gap, _, rfl, hgap, hne, rfl⟩ := mem_ways_blanks.mp hgapped
    obtain ⟨between, _, rfl, hbetween, rfl⟩ := Expr.mem_ways_many_reluctant.mp hreached
    obtain ⟨rest, rfl, -⟩ := Expr.mem_ways_text_exact.mp hdashed
    exact ⟨gap, between, rest, hs, hne, hgap, forall_holds_sameLine.mp hbetween⟩
  · rintro ⟨gap, between, rest, hs, hne, hgap, hbetween⟩
    exact ⟨_, _, Expr.mem_ways_text_exact.mpr ⟨_, hs, rfl⟩,
      _, mem_ways_blanks.mpr ⟨gap, _, rfl, hgap, hne, rfl⟩,
      _, Expr.mem_ways_many_reluctant.mpr
        ⟨between, _, rfl, forall_holds_sameLine.mpr hbetween, rfl⟩,
      _, Expr.mem_ways_text_exact.mpr ⟨rest, rfl, rfl⟩, List.mem_singleton_self _⟩

/-- The pattern for a started flag fits exactly the texts in which one is started. -/
theorem search_startedFlagPattern_iff (text : List Code) :
    (startedFlagPattern.search text).isSome = true ↔ StartsFlag text := by
  rw [Expr.search_isSome_iff]
  constructor
  · rintro ⟨before, _, t, rfl, ht⟩
    obtain ⟨gap, between, rest, rfl, hne, hgap, hbetween⟩ :=
      exists_mem_ways_startedFlagPattern.mp ⟨t, ht⟩
    -- Blanks that were left to the text between belong to the gap.
    refine ⟨before, gap ++ between.takeWhile isBlank, between.dropWhile isBlank, rest,
      ?_, ?_, ?_, ?_, ?_⟩
    · rw [List.append_assoc gap, ← List.append_assoc (between.takeWhile isBlank),
        List.takeWhile_append_dropWhile]
    · exact List.append_ne_nil_of_left_ne_nil hne _
    · intro c hc
      rcases List.mem_append.mp hc with hc | hc
      · exact hgap c hc
      · exact List.all_eq_true.mp List.all_takeWhile c hc
    · exact startsWith_dropWhile isBlank between
    · exact fun hmem => hbetween ((List.dropWhile_sublist _).mem hmem)
  · rintro ⟨before, gap, between, rest, rfl, hne, hgap, -, hbetween⟩
    obtain ⟨t, ht⟩ := exists_mem_ways_startedFlagPattern
      (s := .between before.reverse (openMark ++
        (gap ++ (between ++ ([.char '-', .char '-'] ++ rest))))) |>.mpr
        ⟨gap, between, rest, rfl, hne, hgap, hbetween⟩
    exact ⟨before, _, t, rfl, ht⟩

/-- Where a flag was started, a list of flags was opened. -/
theorem openMark_infix_of_search {text : List Code}
    (h : (startedFlagPattern.search text).isSome = true) : openMark <:+: text := by
  obtain ⟨before, gap, between, rest, rfl, -⟩ := (search_startedFlagPattern_iff text).mp h
  exact ⟨before, _, List.append_assoc ..⟩

end Actionary
