import Actionary.Proofs.Checked
import Actionary.Proofs.RelaxedLoad

/-!
# The numbers of records in reports

A report on a record gives its section and its number, counted from one. Two counts are behind such
a number:

    a record with faults         its place among all records of the section
    an action that shadows       its place among the actions that were accepted

So the number of a record with faults is always right. The number of a shadowing action leaves out
the rejected records before it: `reported_record_number` says by how much, and that it is right
exactly if there are none. Strict loading never comes to a shadowing action behind a rejected
record.
-/

namespace Actionary

/-! ## Numbers and the reports that give them -/

/-- The section and the number, from one on, that a report gives for a record. -/
def Report.recordNumber? (r : Report) : Option (Text × Int) :=
  r.location.record.map fun n => ((nonEmpty? r.location.sectionName).getD unnamedSection, n + 1)

/-- The number is what the text of a report says behind the name of the file. -/
theorem Report.locationText_of_recordNumber? {r : Report} {name : Text} {n : Int}
    (h : r.recordNumber? = some (name, n)) (indent : Text) :
    locationText indent r.location =
      sourceLine indent r.location ++
        (indent ++ "on " ++ name ++ " record " ++ toString n ++ "\n") := by
  obtain ⟨place, hplace, hname⟩ := Option.map_eq_some_iff.mp h
  obtain ⟨rfl, rfl⟩ := Prod.mk.inj hname
  rw [locationText, hplace]

namespace Loading

variable {α : Type} {mode : LoadMode} {a : α} {i : Issue} {issues : List Issue}

/-- What is reported: the warnings, and the issue that ended the loading. -/
def reported (x : Loading α) : List Issue :=
  x.warnings ++
    match x.result with
    | .ok _ => []
    | .error i => [i]

theorem head?_of_mem_reported_strict (h : i ∈ (through .strict a issues).reported) :
    issues.head? = some i := by
  rw [reported, warnings_through_strict, result_through_strict] at h
  cases issues with
  | nil => exact absurd h List.not_mem_nil
  | cons j rest => exact congrArg some (List.mem_singleton.mp h).symm

/-- Nothing is reported but the issues on the way, and that one of them cannot be written. -/
theorem mem_of_mem_reported (h : i ∈ (through mode a issues).reported) :
    i ∈ issues ∨ i = .longInteger := by
  cases mode with
  | strict => exact Or.inl (List.mem_of_mem_head? (head?_of_mem_reported_strict h))
  | relaxed =>
      rw [reported, warnings_through_relaxed, result_through_relaxed] at h
      rcases List.mem_append.mp h with h | h
      · exact Or.inl ((List.takeWhile_sublist _).mem h)
      · split at h
        · exact absurd h List.not_mem_nil
        · next heq =>
            split at heq
            · exact absurd heq (by simp)
            · rw [List.mem_singleton.mp h]
              exact Or.inr (Except.error.inj heq).symm

end Loading

namespace Snapshot

variable {α : Type} {file : Option Text} {entries : Entries} {i : Issue}

/-! ## Places among records -/

/-- The records of a section as they are given; none if the section is no sequence. -/
def records (name : Text) (entries : Entries) : List Value :=
  match Value.get? entries name with
  | some (.list records) => records
  | _ => []

theorem sectionRecords_eq_accepted (name : Text) (read : Value → Checked α) (entries : Entries) :
    sectionRecords name read entries = accepted read (records name entries) := by
  rw [sectionRecords, records]
  cases Value.get? entries name with
  | none => rfl
  | some v =>
      cases v with
      | list values => rfl
      | _ => rfl

/-- An accepted record comes from a record, and the accepted records before it from the records
before that one. -/
theorem accepted_getElem? {read : Value → Checked α} {a : α} {values : List Value} :
    ∀ {place : Nat}, (accepted read values)[place]? = some a →
      ∃ index v, values[index]? = some v ∧ read v = .valid a ∧
        accepted read (values.take index) = (accepted read values).take place := by
  induction values with
  | nil => exact fun h => absurd h (by simp [accepted])
  | cons v vs ih =>
      intro place h
      cases hv : read v with
      | faulty first others =>
          have hskip := accepted_cons_of_faulty hv
          rw [hskip] at h
          obtain ⟨index, w, hw, hread, hbefore⟩ := ih h
          exact ⟨index + 1, w, hw, hread, by rw [List.take_succ_cons, hskip, hskip, hbefore]⟩
      | valid b =>
          have hkeep := accepted_cons_of_valid hv
          rw [hkeep] at h
          cases place with
          | zero => exact ⟨0, v, rfl, by rw [hv, Option.some.inj h], rfl⟩
          | succ place =>
              obtain ⟨index, w, hw, hread, hbefore⟩ := ih h
              refine ⟨index + 1, w, hw, hread, ?_⟩
              rw [List.take_succ_cons, hkeep, hkeep, hbefore, List.take_succ_cons]

theorem mem_accepted {read : Value → Checked α} {values : List Value} {a : α} :
    a ∈ accepted read values ↔ ∃ v ∈ values, read v = .valid a := by
  simp only [accepted, List.mem_filterMap, Checked.value?_eq_some_iff]

/-! ## What the issues of a catalog are about -/

/-- A record that the reader of its section rejects. -/
inductive Faulty : Text → Value → Prop
  | action {v : Value} : (Checked.value? <| Action.read v) = none → Faulty "actions" v
  | locator {v : Value} : (Checked.value? <| Locator.read v) = none → Faulty "locators" v
  | elementAttribute {v : Value} :
      (Checked.value? <| Attribute.read v) = none → Faulty "attributes" v
  | annotationEntry {v : Value} :
      (Checked.value? <| Annotation.read v) = none → Faulty "annotations" v

theorem Faulty.isEmpty_name {name : Text} {v : Value} (h : Faulty name v) :
    name.isEmpty = false := by
  cases h with
  | action _ => rfl
  | locator _ => rfl
  | elementAttribute _ => rfl
  | annotationEntry _ => rfl

theorem faulty_actions_iff {v : Value} : Faulty "actions" v ↔ (Action.read v).value? = none := by
  refine ⟨fun h => ?_, .action⟩
  generalize hname : ("actions" : Text) = name at h
  cases h with
  | action h => exact h
  | locator _ => exact absurd hname (by decide)
  | elementAttribute _ => exact absurd hname (by decide)
  | annotationEntry _ => exact absurd hname (by decide)

/-- The record at a place of a section is rejected. -/
def FaultyAt (entries : Entries) (name : Text) (index : Nat) (v : Value) : Prop :=
  (records name entries)[index]? = some v ∧ Faulty name v

/-- The record at a place among the actions is accepted, and so is one before it with the same key.
-/
def ShadowsAt (entries : Entries) (index : Nat) (a : Action) : Prop :=
  (∃ v, (records "actions" entries)[index]? = some v ∧ Action.read v = .valid a) ∧
    ∃ earlier ∈ (records "actions" entries).take index, ∃ b, Action.read earlier = .valid b ∧
      b.key = a.key

/-- The number of accepted actions before a place. -/
def acceptedBefore (entries : Entries) (index : Nat) : Nat :=
  (accepted Action.read ((records "actions" entries).take index)).length

/-- All records before an action are accepted exactly if none of them is rejected. -/
theorem ShadowsAt.acceptedBefore_eq_iff {index : Nat} {a : Action} (h : ShadowsAt entries index a) :
    acceptedBefore entries index = index ↔
      ∀ v ∈ (records "actions" entries).take index, ¬ Faulty "actions" v := by
  obtain ⟨⟨v, hv, -⟩, -⟩ := h
  have hle : index ≤ (records "actions" entries).length :=
    Nat.le_of_lt (List.getElem?_eq_some_iff.mp hv).1
  have hall := List.filterMap_length_eq_length (f := fun v => (Action.read v).value?)
    (l := (records "actions" entries).take index)
  rw [List.length_take, Nat.min_eq_left hle] at hall
  rw [acceptedBefore, accepted, hall]
  simp only [faulty_actions_iff, Option.isSome_iff_ne_none, ne_eq]

/-- What an issue of a catalog is about, and the place it gives: a section as a whole, a rejected
record, or an action that shadows an earlier one. -/
inductive About (file : Option Text) (entries : Entries) : Issue → Prop
  | whole (name : Text) : About file entries (.sectionShape name file)
  | faulty {name : Text} {index : Nat} {v : Value} (first : Fault) (others : List Fault) :
      FaultyAt entries name index v →
        About file entries (.badRecord ⟨first, others, v, file, some name, some index⟩)
  | shadowing {index : Nat} {a : Action} : ShadowsAt entries index a →
      About file entries (.shadowing a.key.text (acceptedBefore entries index) file)

theorem recordIssue?_eq_some {name : Text} {read : Value → Checked α} {v : Value} {index : Nat}
    (h : recordIssue? file name read (v, index) = some i) :
    ∃ first others, read v = .faulty first others ∧
      i = .badRecord ⟨first, others, v, file, some name, some index⟩ := by
  rw [recordIssue?] at h
  cases hv : read v with
  | valid a => exact absurd h (by simp [hv])
  | faulty first others =>
      rw [hv] at h
      exact ⟨first, others, rfl, (Option.some.inj h).symm⟩

/-- A section is at fault as a whole and has no records, or its issues are those of its records. -/
theorem sectionIssues_cases (file : Option Text) (name : Text) (read : Value → Checked α)
    (entries : Entries) :
    sectionIssues file name read entries = [.sectionShape name file] ∨
      sectionIssues file name read entries =
        (records name entries).zipIdx.filterMap (recordIssue? file name read) := by
  rw [sectionIssues_eq_sectionWarnings, sectionWarnings, records]
  cases Value.get? entries name with
  | none => exact Or.inr rfl
  | some v =>
      cases v with
      | null => exact Or.inr rfl
      | list values => exact Or.inr rfl
      | _ => exact Or.inl rfl

theorem about_of_mem_sectionIssues {name : Text} {read : Value → Checked α}
    (hread : ∀ {v}, (read v).value? = none → Faulty name v)
    (h : i ∈ sectionIssues file name read entries) : About file entries i := by
  rcases sectionIssues_cases file name read entries with hwhole | hrecords
  · rw [hwhole] at h
    rw [List.mem_singleton.mp h]
    exact .whole name
  · rw [hrecords] at h
    obtain ⟨⟨v, index⟩, hmem, hissue⟩ := List.mem_filterMap.mp h
    obtain ⟨first, others, hv, rfl⟩ := recordIssue?_eq_some hissue
    exact .faulty first others ⟨List.mem_zipIdx_iff_getElem?.mp hmem, hread (by rw [hv]; rfl)⟩

theorem about_of_mem_shadowed (h : i ∈ shadowed file [] 0 (validActions entries)) :
    About file entries i := by
  have heq : shadowed file [] 0 (validActions entries) =
      (validActions entries).zipIdx.filterMap (shadowIssue? file (validActions entries)) :=
    shadowed_eq_filterMap file (validActions entries) [] [] fun _ => Iff.rfl
  rw [heq] at h
  obtain ⟨⟨a, place⟩, hmem, hissue⟩ := List.mem_filterMap.mp h
  rw [shadowIssue?] at hissue
  split at hissue
  · next hkey =>
      obtain rfl := Option.some.inj hissue
      have hplace := List.mem_zipIdx_iff_getElem?.mp hmem
      rw [validActions, sectionRecords_eq_accepted] at hplace hkey
      -- The accepted action is traced back to its record, and the one before it as well.
      obtain ⟨index, v, hv, hread, hbefore⟩ := accepted_getElem? hplace
      rw [← hbefore] at hkey
      obtain ⟨b, hb, hsame⟩ := List.mem_map.mp hkey
      obtain ⟨earlier, hearlier, hreadb⟩ := mem_accepted.mp hb
      have hcount : acceptedBefore entries index = place := by
        rw [acceptedBefore, hbefore, List.length_take]
        exact Nat.min_eq_left (Nat.le_of_lt (List.getElem?_eq_some_iff.mp hplace).1)
      rw [← hcount]
      exact .shadowing ⟨⟨v, hv, hread⟩, earlier, hearlier, b, hreadb, hsame⟩
  · exact absurd hissue (by simp)

theorem about_of_mem_issues (h : i ∈ issues file entries) : About file entries i := by
  simp only [issues, List.mem_append] at h
  rcases h with h | h | h | h | h
  · exact about_of_mem_sectionIssues .action h
  · exact about_of_mem_sectionIssues .locator h
  · exact about_of_mem_sectionIssues .elementAttribute h
  · exact about_of_mem_sectionIssues .annotationEntry h
  · exact about_of_mem_shadowed h

/-- Where a shadowing action is the first issue of a catalog, no action of the catalog is rejected.
-/
theorem not_faulty_of_head?_issues {key : Text} {position : Nat}
    (h : (issues file entries).head? = some (.shadowing key position file)) :
    ∀ v ∈ records "actions" entries, ¬ Faulty "actions" v := by
  rw [issues] at h
  rcases sectionIssues_cases file "actions" Action.read entries with hwhole | hrecords
  · rw [hwhole] at h
    exact absurd (Option.some.inj h) (by simp)
  · rw [hrecords] at h
    cases hlist : (records "actions" entries).zipIdx.filterMap
      (recordIssue? file "actions" Action.read) with
    | cons j rest =>
        -- The head would be a shadowing action and a rejected record at once.
        rw [hlist] at h
        have hj : j = .shadowing key position file := Option.some.inj h
        have hmem : j ∈ (records "actions" entries).zipIdx.filterMap
            (recordIssue? file "actions" Action.read) := by
          rw [hlist]
          exact List.mem_cons_self
        obtain ⟨⟨v, index⟩, -, hissue⟩ := List.mem_filterMap.mp hmem
        obtain ⟨first, others, -, hbad⟩ := recordIssue?_eq_some hissue
        exact absurd (hj.symm.trans hbad) (by simp)
    | nil =>
        intro v hv hfaulty
        obtain ⟨index, hindex⟩ := List.mem_iff_getElem?.mp hv
        have hnone := List.filterMap_eq_nil_iff.mp hlist (v, index)
          (List.mem_zipIdx_iff_getElem?.mpr hindex)
        rw [faulty_actions_iff] at hfaulty
        cases hread : Action.read v with
        | valid a => exact absurd hfaulty (by simp [hread, Checked.value?])
        | faulty first others => exact absurd hnone (by simp [recordIssue?, hread])

/-! ## Numbers and places -/

/-- **The number of a rejected record is its place, and that of a shadowing action its place among
the accepted ones.** The latter is the place of the action exactly if no record before it is
rejected, and always so in strict loading. The number is the one that the text of the report gives.
-/
theorem reported_record_number (mode : LoadMode) (file : Option Text)
    (entries : Entries) (i : Issue)
    (hi : i ∈ (build mode file entries).reported) (name : Text) (n : Int)
    (hn : i.report.recordNumber? = some (name, n)) :
    (∀ indent, Report.locationText indent i.report.location =
        Report.sourceLine indent i.report.location ++
          (indent ++ "on " ++ name ++ " record " ++ toString n ++ "\n")) ∧
      ((∃ (r : BadRecord) (index : Nat), i = .badRecord r ∧ n = index + 1 ∧
          FaultyAt entries name index r.record) ∨
        ∃ (a : Action) (index : Nat),
          i = .shadowing a.key.text (acceptedBefore entries index) file ∧
          name = "actions" ∧ ShadowsAt entries index a ∧ n = acceptedBefore entries index + 1 ∧
          (n = index + 1 ↔ ∀ v ∈ (records "actions" entries).take index, ¬ Faulty "actions" v) ∧
          (mode = .strict → n = index + 1)) := by
  refine ⟨Report.locationText_of_recordNumber? hn, ?_⟩
  rw [build_eq_through] at hi
  rcases Loading.mem_of_mem_reported hi with hmem | rfl
  · cases about_of_mem_issues hmem with
    | whole name' => exact absurd hn (by simp [Issue.report, Report.recordNumber?])
    | @faulty name' index v first others hat =>
        have hnumber : (name', (index : Int) + 1) = (name, n) := by
          simpa [Issue.report, Report.recordNumber?, Report.nonEmpty?, hat.2.isEmpty_name] using hn
        obtain ⟨rfl, rfl⟩ := Prod.mk.inj hnumber
        exact Or.inl ⟨_, index, rfl, rfl, hat⟩
    | @shadowing index a hat =>
        have hactions : Text.isEmpty "actions" = false := rfl
        obtain ⟨rfl, rfl⟩ : "actions" = name ∧ (acceptedBefore entries index : Int) + 1 = n := by
          simpa [Issue.report, Report.recordNumber?, Report.nonEmpty?, hactions] using hn
        have hright : (acceptedBefore entries index : Int) + 1 = index + 1 ↔
            ∀ v ∈ (records "actions" entries).take index, ¬ Faulty "actions" v := by
          rw [← hat.acceptedBefore_eq_iff]
          omega
        refine Or.inr ⟨a, index, rfl, rfl, hat, rfl, hright, ?_⟩
        rintro rfl
        have hclean := not_faulty_of_head?_issues (Loading.head?_of_mem_reported_strict hi)
        exact hright.mpr fun v hv => hclean v (List.mem_of_mem_take hv)
  · exact absurd hn (by simp [Issue.report, Report.recordNumber?])

/-! ### Behind a rejected record

A record that is nothing, and the same action twice behind it: the second action is the third
record, and is reported as the second. -/

/-- A record of an action that has only a key. -/
def keyRecord (key : Text) : Value :=
  .map [(.text "key", .text key)]

/-- A record that is rejected, and two records of one action. -/
def rejectedThenRepeated : Entries :=
  [(.text "actions", .list [.null, keyRecord "Click", keyRecord "Click"])]

theorem shadowing_mem_reported :
    .shadowing "Click" 1 none ∈ (build .relaxed none rejectedThenRepeated).reported := by
  have hreported : (build .relaxed none rejectedThenRepeated).reported =
      [.badRecord ⟨⟨.notRecord .action, []⟩, [], .null, none, some "actions", some 0⟩,
        .shadowing "Click" 1 none] := rfl
  rw [hreported]
  exact List.mem_cons_of_mem _ List.mem_cons_self

/-- The shadowing action stands behind a rejected record, so its number is not its place. -/
theorem number_behind_rejected_record :
    .shadowing "Click" 1 none ∈ (build .relaxed none rejectedThenRepeated).reported ∧
      ∃ (a : Action) (index : Nat), ShadowsAt rejectedThenRepeated index a ∧
        (2 : Int) = acceptedBefore rejectedThenRepeated index + 1 ∧ (2 : Int) ≠ index + 1 := by
  refine ⟨shadowing_mem_reported, ?_⟩
  rcases (reported_record_number .relaxed none rejectedThenRepeated (.shadowing "Click" 1 none)
    shadowing_mem_reported "actions" 2 rfl).2
    with ⟨r, index, hr, -⟩ | ⟨a, index, -, -, hat, hn, hright, -⟩
  · exact absurd hr (by simp)
  · refine ⟨a, index, hat, hn, fun heq => ?_⟩
    obtain rfl : index = 1 := by omega
    exact hright.mp heq .null List.mem_cons_self (.action rfl)

/-- **The number can be that of a record which is neither rejected nor shadows another**: here it is
that of the shadowed action. -/
theorem wrong_number_behind_rejected_record :
    ¬ ∀ i ∈ (build .relaxed none rejectedThenRepeated).reported, ∀ name n,
      i.report.recordNumber? = some (name, n) → ∃ index : Nat, n = index + 1 ∧
        ((∃ v, FaultyAt rejectedThenRepeated name index v) ∨
          ∃ a, ShadowsAt rejectedThenRepeated index a) := by
  intro h
  obtain ⟨index, hn, hcases⟩ := h _ shadowing_mem_reported "actions" 2 rfl
  obtain rfl : index = 1 := by omega
  rcases hcases with ⟨v, hv, hfaulty⟩ | ⟨a, -, earlier, hearlier, b, hread, -⟩
  · obtain rfl : keyRecord "Click" = v := Option.some.inj hv
    exact absurd (faulty_actions_iff.mp hfaulty) (by decide)
  · obtain rfl : earlier = .null := List.mem_singleton.mp hearlier
    exact absurd hread (by simp [Action.read, readRecord, Checked.fault])

end Snapshot

end Actionary
