import Mathlib.Data.List.Infix
import Mathlib.Data.List.Induction
import Actionary.Proofs.OutOfRange

/-!
# Lists of flags, read from left to right

Whether the cursor is inside a list of flags is asked backwards: the last opening mark before the
cursor is looked for, and then a closing mark behind it. A reader that goes from left to right and
keeps one bit comes to the same answer (`endsInFlagList_eq_foldl`): the bit is set where the text
read so far ends in an opening mark, cleared where it ends in a closing mark, and kept otherwise.

The two marks have no character in common, so a closing mark that ends behind an opening mark also
starts behind it, and a later opening mark takes the place of an earlier one whether that was closed
or not.
-/

namespace Actionary

/-- The bit of the reader after one more character, by all that was read. -/
def insideAfter (inside : Bool) (read : List Code) : Bool :=
  if openMark.isSuffixOf read then true
  else if closeMark.isSuffixOf read then false
  else inside

/-! ## One more character -/

theorem endsInFlagList_of_no_openMark {text : List Code} (h : ¬ openMark <:+: text) :
    endsInFlagList text = false := by
  rw [endsInFlagList, (afterLast?_eq_none_iff (by decide) text).mpr h]

/-- Behind an opening mark the text is inside a list, which nothing follows yet. -/
theorem endsInFlagList_of_openMark {text : List Code} (h : openMark <:+ text) :
    endsInFlagList text = true := by
  obtain ⟨before, rfl⟩ := h
  have hlast : LastList (before ++ openMark) [] :=
    ⟨⟨before, (List.append_nil _).symm⟩, fun hin => absurd hin.length_le (by decide)⟩
  exact (endsInFlagList_iff_of_lastList hlast).mpr fun hin => absurd hin.length_le (by decide)

/-- A closing mark at the end of a text is behind its last opening mark. -/
theorem LastList.closeMark_behind {text rest : List Code} (h : LastList text rest)
    (hclose : closeMark <:+ text) : closeMark <:+: rest := by
  obtain ⟨⟨before, rfl⟩, -⟩ := h
  have hdollar : .char '$' :: rest <:+ before ++ openMark ++ rest :=
    ⟨before ++ [.char '{', .char '{'], by simp [openMark]⟩
  rcases List.suffix_or_suffix_of_suffix hclose hdollar with hshort | hlong
  · rcases List.suffix_cons_iff.mp hshort with heq | hrest
    · exact absurd (List.cons.inj heq).1 (by decide)
    · exact hrest.isInfix
  · exact absurd (hlong.subset List.mem_cons_self) (by decide)

theorem endsInFlagList_of_closeMark {text : List Code} (h : closeMark <:+ text) :
    endsInFlagList text = false := by
  by_cases hopen : openMark <:+: text
  · obtain ⟨rest, hrest⟩ := exists_lastList hopen
    rw [← Bool.not_eq_true, endsInFlagList_iff_of_lastList hrest]
    exact fun hnot => hnot (hrest.closeMark_behind h)
  · exact endsInFlagList_of_no_openMark hopen

/-- A character that ends neither mark changes nothing. -/
theorem endsInFlagList_concat {text : List Code} {c : Code} (hopen : ¬ openMark <:+ text ++ [c])
    (hclose : ¬ closeMark <:+ text ++ [c]) :
    endsInFlagList (text ++ [c]) = endsInFlagList text := by
  by_cases hin : openMark <:+: text
  · obtain ⟨rest, hrest⟩ := exists_lastList hin
    obtain ⟨⟨before, htext⟩, hlast⟩ := hrest
    -- What ends behind the last opening mark ends the whole text.
    have hbehind : ∀ mark, mark <:+ rest ++ [c] → mark <:+ text ++ [c] := by
      intro mark hmark
      rw [htext, List.append_assoc]
      exact hmark.trans (List.suffix_append _ _)
    have hnext : LastList (text ++ [c]) (rest ++ [c]) := by
      refine ⟨⟨before, by rw [htext, List.append_assoc]⟩, fun hlater => ?_⟩
      rcases List.infix_concat_iff.mp hlater with hend | hwithin
      · exact hopen (hbehind _ hend)
      · exact hlast hwithin
    rw [Bool.eq_iff_iff, endsInFlagList_iff_of_lastList hnext,
      endsInFlagList_iff_of_lastList ⟨⟨before, htext⟩, hlast⟩, List.infix_concat_iff,
      or_iff_right fun hend => hclose (hbehind _ hend)]
  · have hnone : ¬ openMark <:+: text ++ [c] := fun hlater =>
      (List.infix_concat_iff.mp hlater).elim hopen hin
    rw [endsInFlagList_of_no_openMark hnone, endsInFlagList_of_no_openMark hin]

theorem endsInFlagList_step (text : List Code) (c : Code) :
    endsInFlagList (text ++ [c]) = insideAfter (endsInFlagList text) (text ++ [c]) := by
  rw [insideAfter]
  split
  · next hopen => exact endsInFlagList_of_openMark (List.isSuffixOf_iff_suffix.mp hopen)
  · next hopen =>
      split
      · next hclose => exact endsInFlagList_of_closeMark (List.isSuffixOf_iff_suffix.mp hclose)
      · next hclose =>
          rw [List.isSuffixOf_iff_suffix] at hopen hclose
          exact endsInFlagList_concat hopen hclose

/-! ## The whole text -/

/-- **Searching backwards for the marks is reading from left to right with one bit.** -/
theorem endsInFlagList_eq_foldl (text : List Code) :
    endsInFlagList text = text.inits.foldl insideAfter false := by
  induction text using List.reverseRecOn with
  | nil => rfl
  | append_singleton text c ih =>
      have hinits : (text ++ [c]).inits = text.inits ++ [text ++ [c]] := List.inits_append text [c]
      rw [endsInFlagList_step, ih, hinits, List.foldl_append, List.foldl_cons, List.foldl_nil]

/-- **Whether a column is inside a list of flags is settled column by column.** It is not at the
start of the line; behind an opening mark it is, behind a closing mark it is not, behind any other
character it is as it was before the character; and beyond the end it is as at the end. -/
theorem inFlagList_by_columns (line : Text) :
    inFlagList line 0 = false ∧
      (∀ column < line.length,
        (openMark <:+ line.toList.take (column + 1) → inFlagList line (column + 1 : Nat) = true) ∧
          (closeMark <:+ line.toList.take (column + 1) →
            inFlagList line (column + 1 : Nat) = false) ∧
          (¬ openMark <:+ line.toList.take (column + 1) →
            ¬ closeMark <:+ line.toList.take (column + 1) →
            inFlagList line (column + 1 : Nat) = inFlagList line column)) ∧
      (∀ column : Nat, line.length ≤ column →
        inFlagList line column = inFlagList line line.length) ∧
      ∀ column : Nat, inFlagList line column =
        (line.toList.take column).inits.foldl insideAfter false := by
  have hat : ∀ column : Nat, inFlagList line column = endsInFlagList (line.toList.take column) := by
    intro column
    rw [inFlagList, Text.before_natCast]
  refine ⟨rfl, fun column hcolumn => ?_, fun column hcolumn => ?_, fun column => ?_⟩
  · rw [hat, hat]
    refine ⟨endsInFlagList_of_openMark, endsInFlagList_of_closeMark, ?_⟩
    rw [List.take_succ_eq_append_getElem (show column < line.toList.length from hcolumn)]
    exact endsInFlagList_concat
  · rw [inFlagList_of_length_le hcolumn, inFlagList_of_length_le (Nat.le_refl _)]
  · rw [hat, endsInFlagList_eq_foldl]

end Actionary
