import Actionary.Proofs.OfferedFlags

/-!
# Positions outside the document

A position is out of range if the document does not have its line, or if its column is beyond the
end of that line. Nothing is offered on a line that is missing. Beyond the end of a line no flag is
offered either, since a flag needs its introduction right before the cursor. Snippets do not ask for
the column but through the text before it, and before a column beyond the end stands the whole line:
what is offered there is what is offered at the end of the line.
-/

namespace Actionary

/-- A position that a document does not have: its line is missing, or its column is beyond the end
of the line. -/
def Document.OutOfRange (d : Document) (p : Position) : Prop :=
  d.lines.length ≤ p.line ∨ ∃ line, d.lineAt? p = some line ∧ line.length < p.character

variable {c : Config} {d : Document} {p : Position} {line : Text}

theorem Document.lineAt?_eq_none_iff : d.lineAt? p = none ↔ d.lines.length ≤ p.line :=
  List.getElem?_eq_none_iff

theorem Document.OutOfRange.length_lt (h : d.OutOfRange p) (hline : d.lineAt? p = some line) :
    line.length < p.character := by
  rcases h with hmissing | ⟨line', hline', hlt⟩
  · rw [Document.lineAt?_eq_none_iff.mpr hmissing] at hline
    exact absurd hline (by simp)
  · rw [hline'] at hline
    exact Option.some.inj hline ▸ hlt

/-! ## Flags -/

theorem offeredFlagsAt_eq_nil_of_outOfRange (h : d.OutOfRange p) :
    offeredFlagsAt FlagCondition.all c d p = [] := by
  by_contra hne
  obtain ⟨line, a, hat⟩ := exists_offersAt hne
  exact absurd hat.within (Nat.not_le.mpr (h.length_lt hat.line_eq))

/-! ## Snippets -/

theorem offeredSnippets_of_missing_line (h : d.lines.length ≤ p.line) :
    offeredSnippets c d p = [] := by
  unfold offeredSnippets offeredSnippetsBy
  rw [Document.lineAt?_eq_none_iff.mpr h]
  rfl

/-- Before a column at or beyond the end of a line stands the whole line. -/
theorem inFlagList_of_length_le {n : Nat} (h : line.length ≤ n) :
    inFlagList line n = endsInFlagList line.toList := by
  rw [inFlagList, Text.before_natCast, List.take_of_length_le h]

/-- Beyond the end of a line the snippets are those at its end. -/
theorem offeredSnippets_beyond_end (hline : d.lineAt? p = some line)
    (h : line.length ≤ p.character) :
    offeredSnippets c d p = offeredSnippets c d ⟨p.line, line.length⟩ := by
  have hend : d.lineAt? ⟨p.line, line.length⟩ = some line := hline
  rw [offeredSnippets_eq hline, offeredSnippets_eq hend, inFlagList_of_length_le h,
    inFlagList_of_length_le (Nat.le_refl line.length)]
  rfl

theorem compose_eq_nil_iff (s : Snapshot) : Snippet.compose s = [] ↔ s.actions = [] := by
  constructor
  · intro h
    by_contra hne
    obtain ⟨a, ha⟩ := List.exists_mem_of_ne_nil _ hne
    exact compose_ne_nil ha h
  · intro h
    rw [Snippet.compose, h]
    rfl

theorem offeredSnippets_eq_nil_iff (hline : d.lineAt? p = some line) :
    offeredSnippets c d p = [] ↔
      inFlagList line p.character = true ∨
        inSection d p c.sectionName c.catalog.annotationKeys = false ∨ c.catalog.actions = [] := by
  rw [offeredSnippets_eq hline, ← compose_eq_nil_iff]
  cases inFlagList line p.character with
  | true => simp
  | false =>
      cases inSection d p c.sectionName c.catalog.annotationKeys with
      | true => simp
      | false => simp

/-- **Out of range no flag is offered, and snippets are offered exactly where they are at the end of
the line.** So both are empty on a missing line; beyond the end of a line both are empty exactly if
the line ends in a list of flags, is not in the section for actions, or the catalog has no actions.
-/
theorem offered_out_of_range (c : Config) (d : Document) (p : Position) (h : d.OutOfRange p) :
    offeredFlagsAt FlagCondition.all c d p = [] ∧
      (∀ line, d.lineAt? p = some line →
        offeredSnippets c d p = offeredSnippets c d ⟨p.line, line.length⟩) ∧
      (offeredSnippets c d p = [] ↔
        d.lines.length ≤ p.line ∨ (∃ line, d.lineAt? p = some line ∧
          endsInFlagList line.toList = true) ∨
          inSection d p c.sectionName c.catalog.annotationKeys = false ∨
          c.catalog.actions = []) := by
  refine ⟨offeredFlagsAt_eq_nil_of_outOfRange h, fun line hline => ?_, ?_⟩
  · exact offeredSnippets_beyond_end hline (Nat.le_of_lt (h.length_lt hline))
  · cases hline : d.lineAt? p with
    | none =>
        have hmissing := Document.lineAt?_eq_none_iff.mp hline
        exact ⟨fun _ => Or.inl hmissing, fun _ => offeredSnippets_of_missing_line hmissing⟩
    | some line =>
        have hpresent : ¬ d.lines.length ≤ p.line := fun hmissing => by
          rw [Document.lineAt?_eq_none_iff.mpr hmissing] at hline
          exact absurd hline (by simp)
        rw [offeredSnippets_eq_nil_iff hline,
          inFlagList_of_length_le (Nat.le_of_lt (h.length_lt hline))]
        simp [hpresent]

/-- One column beyond the end of a line at whose end a flag is offered, none is. -/
theorem offered_beyond_reopened_list :
    offeredFlagsAt FlagCondition.all clickConfig (actionDocument reopenedListLine) ⟨1, 23⟩ ≠ [] ∧
      (actionDocument reopenedListLine).OutOfRange ⟨1, 24⟩ ∧
      offeredFlagsAt FlagCondition.all clickConfig (actionDocument reopenedListLine) ⟨1, 24⟩ = [] ∧
      offeredSnippets clickConfig (actionDocument reopenedListLine) ⟨1, 24⟩ = [] := by
  have hout : (actionDocument reopenedListLine).OutOfRange ⟨1, 24⟩ :=
    Or.inr ⟨reopenedListLine, rfl, by decide⟩
  obtain ⟨hflags, -, hsnippets⟩ := offered_out_of_range clickConfig _ _ hout
  refine ⟨by decide +kernel, hout, hflags,
    hsnippets.mpr (Or.inr (Or.inl ⟨reopenedListLine, rfl, ?_⟩))⟩
  decide +kernel

/-- **Beyond the end of an empty line in the section for actions snippets are offered**, though the
document does not have the position. -/
theorem snippets_beyond_end_of_line :
    (actionDocument "").OutOfRange ⟨1, 5⟩ ∧
      offeredSnippets clickConfig (actionDocument "") ⟨1, 5⟩ ≠ [] :=
  ⟨Or.inr ⟨"", rfl, by decide⟩, by decide +kernel⟩

end Actionary
