import Actionary.Completion.Request
import Actionary.Proofs.FlagList
import Actionary.Proofs.SnippetNames

/-!
# Snippets and flags at one place

Snippets are offered outside lists of flags and flags inside them. The two requests ask about the
list in their own ways: snippets are withheld if the last list before the cursor is not closed,
flags need a list that was opened and a flag that was started, closed or not. So the two are offered
together exactly where flags are offered behind a list that is closed again, in the section for
actions.
-/

namespace Actionary

open Actionary.Pattern

variable {c : Config} {d : Document} {p : Position} {line : Text}

/-! ## What is offered -/

theorem offeredSnippets_eq (h : d.lineAt? p = some line) :
    offeredSnippets c d p =
      if inFlagList line p.character = true then []
      else if inSection d p c.sectionName c.catalog.annotationKeys = true then
        Snippet.compose c.catalog
      else [] := by
  unfold offeredSnippets offeredSnippetsBy
  rw [h]
  rfl

theorem Recognizer.mem_actions_of_resolve? {r : Recognizer} {s : Snapshot} {a : Action}
    (h : r.resolve? s line = some a) : a ∈ s.actions := by
  unfold Recognizer.resolve? at h
  split at h
  · exact absurd h (by simp)
  · exact List.mem_of_find?_eq_some h

theorem offeredFlagsAt_of_resolve? {conditions : List FlagCondition} {a : Action}
    (hline : d.lineAt? p = some line) (ha : c.recognizer.resolve? c.catalog line = some a) :
    offeredFlagsAt conditions c d p = offeredFlags conditions a line p.character := by
  simp only [offeredFlagsAt, hline, ha]

/-- Flags are offered on a line of the document, for the action that the line is about. -/
theorem exists_resolve?_of_offeredFlagsAt_ne_nil {conditions : List FlagCondition}
    (h : offeredFlagsAt conditions c d p ≠ []) :
    ∃ line a, d.lineAt? p = some line ∧ c.recognizer.resolve? c.catalog line = some a ∧
      offeredFlags conditions a line p.character ≠ [] := by
  cases hline : d.lineAt? p with
  | none => exact absurd (by simp only [offeredFlagsAt, hline]) h
  | some line =>
      cases ha : c.recognizer.resolve? c.catalog line with
      | none => exact absurd (by simp only [offeredFlagsAt, hline, ha]) h
      | some a => exact ⟨line, a, rfl, ha, offeredFlagsAt_of_resolve? hline ha ▸ h⟩

/-- The names of the flags of an action are distinct, so none takes the place of another. -/
theorem offeredFlags_eq_filter (conditions : List FlagCondition) (a : Action) (line : Text)
    (column : Int) :
    offeredFlags conditions a line column =
      (a.flags.entries.filter fun e => conditions.all (·.holds ⟨a, e.1, line, column⟩)).map fun e =>
        ⟨e.1, e.2⟩ := by
  refine deduplicate_eq_self ?_
  rw [List.map_map]
  exact a.flags.distinct.sublist (List.filter_sublist.map _)

/-- A flag is offered for an action of the catalog, on a line of the document, under every
condition. -/
theorem of_offeredFlagsAt_ne_nil {conditions : List FlagCondition}
    (h : offeredFlagsAt conditions c d p ≠ []) :
    ∃ line, d.lineAt? p = some line ∧ ∃ a ∈ c.catalog.actions, ∃ flag,
      ∀ condition ∈ conditions, condition.holds ⟨a, flag, line, p.character⟩ = true := by
  obtain ⟨line, a, hline, ha, hne⟩ := exists_resolve?_of_offeredFlagsAt_ne_nil h
  obtain ⟨offered, hoffered⟩ := List.exists_mem_of_ne_nil _ hne
  rw [offeredFlags_eq_filter] at hoffered
  obtain ⟨entry, hentry, -⟩ := List.mem_map.mp hoffered
  exact ⟨line, hline, a, Recognizer.mem_actions_of_resolve? ha, entry.1,
    List.all_eq_true.mp (List.mem_filter.mp hentry).2⟩

/-- Where an action is, its first snippet or one of the same name is. -/
theorem compose_ne_nil {s : Snapshot} {a : Action} (h : a ∈ s.actions) :
    Snippet.compose s ≠ [] := by
  have hname : a.phrase ++ " w/ argument" ∈ (Snippet.compose s).map (·.name) := by
    rw [Snippet.compose, mem_keys_deduplicate, List.map_flatMap]
    exact List.mem_flatMap.mpr ⟨a, h, Snippet.seed_mem_namesOf _ a⟩
  intro hnil
  rw [hnil] at hname
  exact absurd hname List.not_mem_nil

/-! ## Both at one place -/

/-- **Where a flag is offered, a list of flags was opened before the cursor, and no snippet is
offered exactly if the last such list is not closed** or the place is not in the section for
actions. The cursor is then inside the list exactly if the list is not closed. -/
theorem offeredSnippets_eq_nil_iff_of_offeredFlags (c : Config) (d : Document) (p : Position)
    (h : offeredFlagsAt FlagCondition.all c d p ≠ []) :
    ∃ line rest, d.lineAt? p = some line ∧
      LastList (Text.before p.character line.toList) rest ∧
      (inFlagList line p.character = true ↔ ¬ closeMark <:+: rest) ∧
      (offeredSnippets c d p = [] ↔
        ¬ closeMark <:+: rest ∨ inSection d p c.sectionName c.catalog.annotationKeys = false) := by
  obtain ⟨line, hline, a, ha, flag, hconditions⟩ := of_offeredFlagsAt_ne_nil h
  have hopen : openMark <:+: Text.before p.character line.toList :=
    openMark_infix_of_search (hconditions .listOpen (by decide))
  obtain ⟨rest, hrest⟩ := exists_lastList hopen
  have hinside : inFlagList line p.character = true ↔ ¬ closeMark <:+: rest :=
    endsInFlagList_iff_of_lastList hrest
  refine ⟨line, rest, hline, hrest, hinside, ?_⟩
  rw [offeredSnippets_eq hline, ← hinside]
  by_cases hflags : inFlagList line p.character = true
  · rw [if_pos hflags]
    exact ⟨fun _ => Or.inl hflags, fun _ => rfl⟩
  · rw [if_neg hflags]
    cases inSection d p c.sectionName c.catalog.annotationKeys with
    | true =>
        -- The catalog has the action of the flag, so it has snippets to offer.
        rw [if_pos rfl]
        refine ⟨fun hnil => absurd hnil (compose_ne_nil ha), fun hcases => ?_⟩
        exact absurd (hcases.resolve_right (by decide)) hflags
    | false => exact ⟨fun _ => Or.inr rfl, fun _ => rfl⟩

/-- An action that takes one flag. -/
def clickAction : Action where
  description := ""
  key := ⟨"Click", by decide⟩
  verb := Action.defaultVerb
  literal := "click"
  aliases := []
  capabilities := { flags := true }
  flags := ⟨[("force", "Force the click.")], by decide⟩
  source := ""

/-- The configuration of a catalog with one action. -/
def clickConfig : Config where
  catalog := ⟨[clickAction], [], [], [], by decide⟩
  pattern := none
  sectionName := defaultSection

/-- A line on which a list of flags is opened and closed and another flag is started. -/
def closedListLine : Text :=
  "click " ++ Snippet.braced (Snippet.braced "$ --a ") ++ " --"

/-- A line on which a list of flags is opened and closed and another list is opened. -/
def reopenedListLine : Text :=
  "click " ++ Snippet.braced (Snippet.braced "$ --a ") ++ " " ++ Text.ofList openMark ++ " --"

/-- A document with one line in the section for actions. -/
def actionDocument (line : Text) : Document :=
  ⟨["[test-actions]", line]⟩

/-- At the end of the second list the flag is offered, and so no snippet is. -/
theorem offeredSnippets_eq_nil_in_reopened_list :
    offeredFlagsAt FlagCondition.all clickConfig (actionDocument reopenedListLine) ⟨1, 23⟩ ≠ [] ∧
      ∃ line rest, (actionDocument reopenedListLine).lineAt? ⟨1, 23⟩ = some line ∧
        LastList (Text.before (23 : Nat) line.toList) rest ∧
        (inFlagList line (23 : Nat) = true ↔ ¬ closeMark <:+: rest) ∧
        (offeredSnippets clickConfig (actionDocument reopenedListLine) ⟨1, 23⟩ = [] ↔
          ¬ closeMark <:+: rest ∨
            inSection (actionDocument reopenedListLine) ⟨1, 23⟩ clickConfig.sectionName
              clickConfig.catalog.annotationKeys = false) :=
  have h :
      offeredFlagsAt FlagCondition.all clickConfig (actionDocument reopenedListLine) ⟨1, 23⟩ ≠
        [] := by
    decide +kernel
  ⟨h, offeredSnippets_eq_nil_iff_of_offeredFlags _ _ _ h⟩

/-- **Behind a closed list both are offered**: the dashes after the list start a flag, and the
cursor is outside the list. -/
theorem snippets_and_flags_behind_closed_list :
    offeredFlagsAt FlagCondition.all clickConfig (actionDocument closedListLine) ⟨1, 19⟩ ≠ [] ∧
      offeredSnippets clickConfig (actionDocument closedListLine) ⟨1, 19⟩ ≠ [] ∧
      inFlagList closedListLine 19 = false := by
  decide +kernel

end Actionary
