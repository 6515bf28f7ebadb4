import Mathlib.Data.List.TakeWhile
import Actionary.Proofs.Distinct
import Actionary.Proofs.LoadModes

/-!
# What relaxed loading keeps

Relaxed building reads the records of each section by themselves, warns of those it cannot use and
keeps the rest. Here both halves are told by the records alone:

    kept      every valid locator, attribute and annotation, in order; of the valid actions with one
              key the last, in the place of the first
    warned    each section in its order: a value that is no sequence, or each record with faults;
              then each valid action whose key an earlier valid action has

In the way is a report that cannot be written: relaxed building ends at it, with the warnings before
it. `build_relaxed_keeps_valid` tells both cases. Values are finite trees, and how deep a report can
follow them has no limit here, so an integer of too many digits is all that keeps a report from being
written (`Issue.canWrite`).
-/

namespace Actionary

/-- Relaxed loading keeps all issues as warnings, or ends at the first that cannot be written. -/
theorem Loading.through_relaxed {α : Type} (a : α) (issues : List Issue) :
    through .relaxed a issues =
      if issues.all (·.canWrite) then ⟨issues, .ok a⟩
      else ⟨issues.takeWhile (·.canWrite), .error .longInteger⟩ := by
  have hparts : through .relaxed a issues =
      ⟨(through .relaxed a issues).warnings, (through .relaxed a issues).result⟩ := rfl
  rw [hparts, warnings_through_relaxed, result_through_relaxed]
  split
  · next hall => rw [List.takeWhile_eq_self_iff.mpr (List.all_eq_true.mp hall)]
  · rfl

namespace Snapshot

variable {α : Type}

/-! ## Valid records -/

/-- The valid actions of a catalog in order. -/
def validActions (entries : Entries) : List Action :=
  sectionRecords "actions" Action.read entries

/-- A catalog holds the valid records, and of valid actions with one key the last in the place of
the first. -/
structure KeepsValid (entries : Entries) (s : Snapshot) : Prop where
  locators : s.locators = sectionRecords "locators" Locator.read entries
  attributes : s.attributes = sectionRecords "attributes" Attribute.read entries
  annotations : s.annotations = sectionRecords "annotations" Annotation.read entries
  nodup_keys : (s.actions.map (·.key)).Nodup
  /-- The keys stand in the order of their first valid records. -/
  keys : s.actions.map (·.key) = ((validActions entries).map (·.key)).eraseDups
  /-- The action of a key is the last valid one with that key. -/
  find : ∀ key, s.find? key = (validActions entries).reverse.find? (·.key.text == key)

theorem keepsValid_contents (entries : Entries) : KeepsValid entries (contents entries) where
  locators := rfl
  attributes := rfl
  annotations := rfl
  nodup_keys := nodup_keys_deduplicate Action.key (validActions entries)
  keys := keys_deduplicate (validActions entries)
  find key := by
    have hone : ∀ k l : ActionKey, (k.text == key) = true → (l.text == key) = true → k = l :=
      fun _ _ hk hl => ActionKey.eq_of_text_eq ((eq_of_beq hk).trans (eq_of_beq hl).symm)
    exact find?_deduplicate hone (validActions entries)

/-! ## Warnings -/

/-- The issue of a record at a place of its section, if it has faults. -/
def recordIssue? (file : Option Text) (name : Text) (read : Value → Checked α) (p : Value × Nat) :
    Option Issue :=
  match read p.1 with
  | .valid _ => none
  | .faulty first others => some (.badRecord ⟨first, others, p.1, file, some name, some p.2⟩)

/-- The issue of an action at a place among actions, if one before it has its key. -/
def shadowIssue? (file : Option Text) (actions : List Action) (p : Action × Nat) : Option Issue :=
  if p.1.key ∈ (actions.take p.2).map (·.key) then some (.shadowing p.1.key.text p.2 file) else none

/-- What is warned of in a section: a value that is neither null nor a sequence, or else every
record with faults. -/
def sectionWarnings (file : Option Text) (name : Text) (read : Value → Checked α)
    (entries : Entries) : List Issue :=
  match Value.get? entries name with
  | none | some .null => []
  | some (.list records) => records.zipIdx.filterMap (recordIssue? file name read)
  | some _ => [.sectionShape name file]

/-- What is warned of in a catalog, in order. -/
def catalogWarnings (file : Option Text) (entries : Entries) : List Issue :=
  sectionWarnings file "actions" Action.read entries ++
    (sectionWarnings file "locators" Locator.read entries ++
      (sectionWarnings file "attributes" Attribute.read entries ++
        (sectionWarnings file "annotations" Annotation.read entries ++
          (validActions entries).zipIdx.filterMap (shadowIssue? file (validActions entries)))))

theorem rejected_eq_filterMap (file : Option Text) (name : Text) (read : Value → Checked α)
    (records : List Value) :
    ∀ position, rejected file name read position records =
      (records.zipIdx position).filterMap (recordIssue? file name read) := by
  induction records with
  | nil => exact fun _ => rfl
  | cons v vs ih =>
      intro position
      rw [rejected, List.zipIdx_cons, List.filterMap_cons]
      cases h : read v with
      | valid a => simp only [recordIssue?, h, ih]
      | faulty first others => simp only [recordIssue?, h, ih]

theorem sectionIssues_eq_sectionWarnings (file : Option Text) (name : Text)
    (read : Value → Checked α) (entries : Entries) :
    sectionIssues file name read entries = sectionWarnings file name read entries := by
  unfold sectionIssues sectionWarnings
  cases Value.get? entries name with
  | none => rfl
  | some v =>
      cases v with
      | list records => exact rejected_eq_filterMap file name read records 0
      | _ => rfl

/-- The keys that were seen are those of the actions before, whatever order they are kept in. -/
theorem shadowed_eq_filterMap (file : Option Text) (actions : List Action) :
    ∀ (done : List Action) (seen : List ActionKey), (∀ k, k ∈ seen ↔ k ∈ done.map (·.key)) →
      shadowed file seen done.length actions =
        (actions.zipIdx done.length).filterMap (shadowIssue? file (done ++ actions)) := by
  induction actions with
  | nil => exact fun _ _ _ => rfl
  | cons a rest ih =>
      intro done seen hseen
      have hlater := ih (done ++ [a]) (a.key :: seen) fun k => by
        rw [List.map_append, List.mem_append, List.mem_cons, hseen k, List.map_singleton,
          List.mem_singleton, or_comm]
      rw [List.length_append, List.length_singleton, List.append_assoc,
        List.singleton_append] at hlater
      rw [shadowed, List.zipIdx_cons, List.filterMap_cons, hlater]
      have hbefore : (done ++ a :: rest).take done.length = done := List.take_left
      by_cases h : a.key ∈ seen
      · have hissue : shadowIssue? file (done ++ a :: rest) (a, done.length) =
            some (.shadowing a.key.text done.length file) := by
          rw [shadowIssue?, hbefore, if_pos ((hseen a.key).mp h)]
        rw [hissue, if_pos h]
        rfl
      · have hissue : shadowIssue? file (done ++ a :: rest) (a, done.length) = none := by
          rw [shadowIssue?, hbefore, if_neg fun hm => h ((hseen a.key).mpr hm)]
        rw [hissue, if_neg h]
        rfl

theorem issues_eq_catalogWarnings (file : Option Text) (entries : Entries) :
    issues file entries = catalogWarnings file entries := by
  have hshadowed : shadowed file [] 0 (sectionRecords "actions" Action.read entries) =
      (validActions entries).zipIdx.filterMap (shadowIssue? file (validActions entries)) :=
    shadowed_eq_filterMap file (validActions entries) [] [] fun _ => Iff.rfl
  simp only [issues, catalogWarnings, sectionIssues_eq_sectionWarnings, hshadowed]

/-! ## Relaxed building -/

/-- **Relaxed building keeps the valid records and warns of everything else.** It does so exactly if
every warning can be written; otherwise it ends at the first that cannot, with the warnings before
it. -/
theorem build_relaxed_keeps_valid (file : Option Text) (entries : Entries) :
    ∃ s, KeepsValid entries s ∧
      build .relaxed file entries =
        if (catalogWarnings file entries).all (·.canWrite) then
          ⟨catalogWarnings file entries, .ok s⟩
        else ⟨(catalogWarnings file entries).takeWhile (·.canWrite), .error .longInteger⟩ := by
  refine ⟨contents entries, keepsValid_contents entries, ?_⟩
  rw [build_eq_through, issues_eq_catalogWarnings, Loading.through_relaxed]

/-- A record that is an integer of too many digits ends relaxed building. -/
theorem build_relaxed_fails_at_long_integer :
    ¬ ∃ s, (build .relaxed none
      (misplacedThenInteger (Nat.pow 10 Numeral.mostDigits : Nat))).result = .ok s := by
  rintro ⟨s, hs⟩
  rw [build_relaxed_misplacedThenInteger (isLong_of_le (Nat.le_refl _))] at hs
  exact absurd hs (by simp)

end Snapshot

end Actionary
