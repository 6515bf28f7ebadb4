import Actionary.Catalog.Load

/-!
# Strict and relaxed loading

The two modes meet the same issues in the same order; they differ only in what an issue does. So the
issues of a catalog are listed here once, without a mode:

    every section in its order    a value that is no sequence, or each record that is rejected
    then the actions              each accepted action whose key an earlier one has

and `build_eq_through` says that building a catalog in either mode is meeting the issues of that
list one after another (`Loading.through`). What a mode does is then a fact about lists: strict
loading ends at the head, relaxed loading keeps the longest prefix whose reports can be written.

The last point is where the modes part. A warning is the text of a report, and the text of a report
that shows an integer of more than `Numeral.mostDigits` digits cannot be written. Relaxed loading
then ends with `Issue.longInteger`, after the warnings it has emitted already, while strict loading
ends at the first issue of the list. `strict_follows_relaxed` says that the modes part in no other
way, for the values there are here: finite trees of any depth. A value that contains itself, and a
limit on how deep a report can follow a value, are left out; either would keep a report from being
written too.
-/

namespace Actionary

/-! ## Sequencing -/

namespace Loading

variable {α β γ : Type}

@[simp] theorem pure_bind (a : α) (f : α → Loading β) : (pure a).bind f = f a := rfl

theorem bind_assoc (x : Loading α) (f : α → Loading β) (g : β → Loading γ) :
    (x.bind f).bind g = x.bind fun a => (f a).bind g := by
  obtain ⟨warnings, result⟩ := x
  cases result with
  | error i => rfl
  | ok a =>
      simp only [bind]
      cases (f a).result with
      | error i => rfl
      | ok b => simp only [List.append_assoc]

/-- Meets the issues of a list one after another, and has a result if none of them ends the loading.
-/
def through (mode : LoadMode) (a : α) : List Issue → Loading α
  | [] => .pure a
  | i :: rest => (emit mode i).bind fun _ => through mode a rest

theorem through_bind {mode : LoadMode} {a : α} {b : β} {later : List Issue} (f : α → Loading β)
    (h : f a = through mode b later) (issues : List Issue) :
    (through mode a issues).bind f = through mode b (issues ++ later) := by
  induction issues with
  | nil => exact h
  | cons i rest ih =>
      simp only [through, bind_assoc, ih, List.cons_append]

theorem through_map (mode : LoadMode) (a : α) (g : α → β) (issues : List Issue) :
    (through mode a issues).bind (fun x => .pure (g x)) = through mode (g a) issues := by
  have h : (through mode a issues).bind (fun x => .pure (g x)) =
      through mode (g a) (issues ++ []) :=
    through_bind (fun x => .pure (g x)) rfl issues
  rwa [List.append_nil] at h

/-! ## What each mode makes of a list of issues -/

theorem warnings_through_strict (a : α) (issues : List Issue) :
    (through .strict a issues).warnings = [] := by
  cases issues with
  | nil => rfl
  | cons i rest => rfl

theorem result_through_strict (a : α) (issues : List Issue) :
    (through .strict a issues).result =
      match issues with
      | [] => .ok a
      | i :: _ => .error i := by
  cases issues with
  | nil => rfl
  | cons i rest => rfl

/-- An issue that can be written becomes a warning; any other ends relaxed loading on the spot. -/
theorem through_relaxed_cons (a : α) (i : Issue) (rest : List Issue) :
    through .relaxed a (i :: rest) =
      if i.canWrite then ⟨i :: (through .relaxed a rest).warnings, (through .relaxed a rest).result⟩
      else ⟨[], .error .longInteger⟩ := by
  cases h : i.canWrite with
  | true => simp [through, emit, bind, h]
  | false => simp [through, emit, bind, h]

theorem warnings_through_relaxed (a : α) (issues : List Issue) :
    (through .relaxed a issues).warnings = issues.takeWhile (·.canWrite) := by
  induction issues with
  | nil => rfl
  | cons i rest ih =>
      rw [through_relaxed_cons, List.takeWhile_cons]
      cases i.canWrite with
      | true => simp [ih]
      | false => rfl

theorem result_through_relaxed (a : α) (issues : List Issue) :
    (through .relaxed a issues).result =
      if issues.all (·.canWrite) then .ok a else .error .longInteger := by
  induction issues with
  | nil => rfl
  | cons i rest ih =>
      rw [through_relaxed_cons, List.all_cons]
      cases i.canWrite with
      | true => simp [ih]
      | false => rfl

end Loading

/-! ## The issues of a catalog -/

namespace Snapshot

variable {α : Type}

/-- The values that a reader accepts, read. -/
def accepted (read : Value → Checked α) (records : List Value) : List α :=
  records.filterMap fun v => (read v).value?

theorem accepted_cons_of_valid {read : Value → Checked α} {v : Value} {a : α}
    (h : read v = .valid a)
    (vs : List Value) : accepted read (v :: vs) = a :: accepted read vs := by
  simp [accepted, h, Checked.value?]

theorem accepted_cons_of_faulty {read : Value → Checked α} {v : Value} {first : Fault}
    {others : List Fault} (h : read v = .faulty first others) (vs : List Value) :
    accepted read (v :: vs) = accepted read vs := by
  simp [accepted, h, Checked.value?]

/-- The issues of the records that a reader rejects, where `position` records stand before them. -/
def rejected (file : Option Text) (name : Text) (read : Value → Checked α) (position : Nat) :
    List Value → List Issue
  | [] => []
  | v :: vs =>
      match read v with
      | .valid _ => rejected file name read (position + 1) vs
      | .faulty first others =>
          .badRecord ⟨first, others, v, file, some name, some position⟩ ::
            rejected file name read (position + 1) vs

theorem readRecords_eq_through (mode : LoadMode) (file : Option Text) (name : Text)
    (read : Value → Checked α) (records : List Value) :
    ∀ position, readRecords mode file name read position records =
      .through mode (accepted read records) (rejected file name read position records) := by
  induction records with
  | nil => exact fun _ => rfl
  | cons v vs ih =>
      intro position
      cases h : read v with
      | valid a =>
          simp only [readRecords, rejected, h, ih, accepted_cons_of_valid h]
          exact Loading.through_map mode (accepted read vs) (a :: ·) _
      | faulty first others =>
          simp only [readRecords, rejected, h, ih, accepted_cons_of_faulty h, Loading.through]

/-- The issues of a section. -/
def sectionIssues (file : Option Text) (name : Text) (read : Value → Checked α)
    (entries : Entries) : List Issue :=
  match Value.get? entries name with
  | none | some .null => []
  | some (.list records) => rejected file name read 0 records
  | some _ => [.sectionShape name file]

/-- The accepted records of a section. -/
def sectionRecords (name : Text) (read : Value → Checked α) (entries : Entries) : List α :=
  match Value.get? entries name with
  | some (.list records) => accepted read records
  | _ => []

theorem readSection_eq_through (mode : LoadMode) (file : Option Text) (name : Text)
    (read : Value → Checked α) (entries : Entries) :
    readSection mode file name read entries =
      .through mode (sectionRecords name read entries) (sectionIssues file name read entries) := by
  unfold readSection sectionRecords sectionIssues
  cases Value.get? entries name with
  | none => rfl
  | some v =>
      cases v with
      | list records => exact readRecords_eq_through mode file name read records 0
      | _ => rfl

/-- The issues of the actions whose key an earlier one has, where `position` actions stand before
them. -/
def shadowed (file : Option Text) (seen : List ActionKey) (position : Nat) :
    List Action → List Issue
  | [] => []
  | a :: rest =>
      (if a.key ∈ seen then [.shadowing a.key.text position file] else []) ++
        shadowed file (a.key :: seen) (position + 1) rest

theorem checkKeys_eq_through (mode : LoadMode) (file : Option Text) (actions : List Action) :
    ∀ seen position, checkKeys mode file seen position actions =
      .through mode () (shadowed file seen position actions) := by
  induction actions with
  | nil => exact fun _ _ => rfl
  | cons a rest ih =>
      intro seen position
      by_cases h : a.key ∈ seen
      · simp only [checkKeys, shadowed, h, ↓reduceIte, ih, List.cons_append, List.nil_append,
          Loading.through]
      · simp only [checkKeys, shadowed, h, ↓reduceIte, ih, List.nil_append, Loading.pure_bind]

/-- The issues of a catalog, in the order in which they are met. -/
def issues (file : Option Text) (entries : Entries) : List Issue :=
  sectionIssues file "actions" Action.read entries ++
    (sectionIssues file "locators" Locator.read entries ++
      (sectionIssues file "attributes" Attribute.read entries ++
        (sectionIssues file "annotations" Annotation.read entries ++
          shadowed file [] 0 (sectionRecords "actions" Action.read entries))))

/-- The catalog of the accepted records. -/
def contents (entries : Entries) : Snapshot :=
  ofRecords (sectionRecords "actions" Action.read entries)
    (sectionRecords "locators" Locator.read entries)
    (sectionRecords "attributes" Attribute.read entries)
    (sectionRecords "annotations" Annotation.read entries)

/-- **Building is meeting the issues in order.**  The list and the catalog do not depend on the
mode. -/
theorem build_eq_through (mode : LoadMode) (file : Option Text) (entries : Entries) :
    build mode file entries = .through mode (contents entries) (issues file entries) := by
  show (readSection mode file "actions" Action.read entries).bind (fun actions =>
    (readSection mode file "locators" Locator.read entries).bind fun locators =>
    (readSection mode file "attributes" Attribute.read entries).bind fun attributes =>
    (readSection mode file "annotations" Annotation.read entries).bind fun annotations =>
    (checkKeys mode file [] 0 actions).bind fun _ =>
      .pure (ofRecords actions locators attributes annotations)) = _
  simp only [readSection_eq_through, checkKeys_eq_through, Loading.through_map]
  rw [issues]
  refine Loading.through_bind _ ?_ _
  refine Loading.through_bind _ ?_ _
  refine Loading.through_bind _ ?_ _
  refine Loading.through_bind _ ?_ _
  rfl

/-- The issues of the catalog in a text: none if the text is no catalog at all. -/
def textIssues (reader : DocumentReader) (file : Option Text) (source : SourceText) : List Issue :=
  match reader source with
  | .ok .null => issues file []
  | .ok (.map entries) => issues file entries
  | _ => []

/-- A text is a catalog whose issues are met in order, or it ends the loading in either mode with
one and the same issue. -/
theorem load_cases (reader : DocumentReader) (file : Option Text) (source : SourceText) :
    (∃ s, ∀ mode, load reader mode file source =
        .through mode s (textIssues reader file source)) ∨
      (textIssues reader file source = [] ∧
        ∃ i, ∀ mode, load reader mode file source = .fail i) := by
  unfold load textIssues
  cases reader source with
  | error failure => exact Or.inr ⟨rfl, failure.issue file, fun _ => rfl⟩
  | ok v =>
      cases v with
      | null => exact Or.inl ⟨contents [], fun mode => build_eq_through mode file []⟩
      | map entries =>
          exact Or.inl ⟨contents entries, fun mode => build_eq_through mode file entries⟩
      | _ => exact Or.inr ⟨rfl, .notSections file, fun _ => rfl⟩

end Snapshot

/-! ## What the issues of a catalog are

A catalog is never at fault for an integer that cannot be written, so `Issue.longInteger` tells a
failure of the report from an issue of the catalog. -/

namespace Issue

/-- The issues with what a catalog holds. -/
def OfCatalog : Issue → Prop
  | .sectionShape _ _ | .shadowing _ _ _ | .badRecord _ => True
  | _ => False

theorem OfCatalog.ne_longInteger {i : Issue} (h : i.OfCatalog) : i ≠ .longInteger := by
  rintro rfl
  exact h

/-- An issue with a catalog is reported as an error of structure or of content. -/
theorem OfCatalog.kind_eq {i : Issue} (h : i.OfCatalog) (hw : i.canWrite = true) :
    i.kind = .structural ∨ i.kind = .content := by
  cases i with
  | sectionShape name file => exact Or.inl rfl
  | shadowing key position file => exact Or.inl rfl
  | badRecord r => exact Or.inr (by simp [kind, hw])
  | badText problem mark file => exact h.elim
  | unreadable file => exact h.elim
  | notSections file => exact h.elim
  | refused message file => exact h.elim
  | longInteger => exact h.elim

end Issue

namespace Snapshot

variable {α : Type}

theorem ofCatalog_of_mem_rejected {file : Option Text} {name : Text} {read : Value → Checked α}
    {i : Issue} {records : List Value} :
    ∀ {position : Nat}, i ∈ rejected file name read position records → i.OfCatalog := by
  induction records with
  | nil => exact fun h => absurd h List.not_mem_nil
  | cons v vs ih =>
      intro position h
      simp only [rejected] at h
      cases hv : read v with
      | valid a =>
          rw [hv] at h
          exact ih h
      | faulty first others =>
          rw [hv] at h
          rcases List.mem_cons.mp h with rfl | h
          · trivial
          · exact ih h

theorem ofCatalog_of_mem_sectionIssues {file : Option Text} {name : Text}
    {read : Value → Checked α} {entries : Entries} {i : Issue}
    (h : i ∈ sectionIssues file name read entries) : i.OfCatalog := by
  unfold sectionIssues at h
  split at h
  · exact absurd h List.not_mem_nil
  · exact absurd h List.not_mem_nil
  · exact ofCatalog_of_mem_rejected h
  · rw [List.mem_singleton.mp h]
    trivial

theorem ofCatalog_of_mem_shadowed {file : Option Text} {i : Issue} {actions : List Action} :
    ∀ {seen : List ActionKey} {position : Nat}, i ∈ shadowed file seen position actions →
      i.OfCatalog := by
  induction actions with
  | nil => exact fun h => absurd h List.not_mem_nil
  | cons a rest ih =>
      intro seen position h
      rcases List.mem_append.mp h with h | h
      · split at h
        · rw [List.mem_singleton.mp h]
          trivial
        · exact absurd h List.not_mem_nil
      · exact ih h

theorem ofCatalog_of_mem_issues {file : Option Text} {entries : Entries} {i : Issue}
    (h : i ∈ issues file entries) : i.OfCatalog := by
  simp only [issues, List.mem_append] at h
  rcases h with h | h | h | h | h
  · exact ofCatalog_of_mem_sectionIssues h
  · exact ofCatalog_of_mem_sectionIssues h
  · exact ofCatalog_of_mem_sectionIssues h
  · exact ofCatalog_of_mem_sectionIssues h
  · exact ofCatalog_of_mem_shadowed h

theorem ofCatalog_of_mem_textIssues {reader : DocumentReader} {file : Option Text}
    {source : SourceText} {i : Issue} (h : i ∈ textIssues reader file source) : i.OfCatalog := by
  unfold textIssues at h
  split at h
  · exact ofCatalog_of_mem_issues h
  · exact ofCatalog_of_mem_issues h
  · exact absurd h List.not_mem_nil

end Snapshot

/-! ## Agreement of the modes -/

namespace Loading

variable {α : Type}

/-- What strict loading does where relaxed loading has a result, or has warned of something. -/
structure StrictFollows (relaxed strict : Loading α) : Prop where
  /-- Strict loading never warns. -/
  silent : strict.warnings = []
  /-- A result without a warning is the result of strict loading. -/
  clean : ∀ a, relaxed.result = .ok a → relaxed.warnings = [] → strict.result = .ok a
  /-- Strict loading ends where relaxed loading warns first, and says the same. -/
  warned : ∀ w rest, relaxed.warnings = w :: rest →
    ∃ i, strict.result = .error i ∧ (i.kind = .structural ∨ i.kind = .content) ∧ i.text = w.text

/-- Where relaxed loading fails, it has warned of nothing and strict loading fails with the same
issue. -/
def FailsAlike (relaxed strict : Loading α) : Prop :=
  ∀ i, relaxed.result = .error i → relaxed.warnings = [] ∧ strict.result = .error i

theorem strictFollows_through (a : α) {issues : List Issue} (h : ∀ i ∈ issues, i.OfCatalog) :
    StrictFollows (through .relaxed a issues) (through .strict a issues) where
  silent := warnings_through_strict a issues
  clean b hb hw := by
    rw [warnings_through_relaxed] at hw
    rw [result_through_relaxed] at hb
    rw [result_through_strict]
    cases issues with
    | nil => exact hb
    | cons i rest =>
        -- The head is either a warning or the end of relaxed loading.
        cases hc : i.canWrite with
        | true => simp [hc] at hw
        | false => simp [hc] at hb
  warned w rest hw := by
    rw [warnings_through_relaxed] at hw
    cases issues with
    | nil => exact absurd hw (by simp)
    | cons i later =>
        cases hc : i.canWrite with
        | true =>
            rw [List.takeWhile_cons_of_pos hc, List.cons.injEq] at hw
            refine ⟨i, result_through_strict a (i :: later), ?_, by rw [hw.1]⟩
            exact (h i List.mem_cons_self).kind_eq hc
        | false => simp [hc] at hw

theorem failsAlike_through_iff (a : α) {issues : List Issue} (h : ∀ i ∈ issues, i.OfCatalog) :
    FailsAlike (through .relaxed a issues) (through .strict a issues) ↔
      ∀ i ∈ issues, i.canWrite = true := by
  rw [← List.all_eq_true]
  cases hall : issues.all (·.canWrite) with
  | true =>
      refine ⟨fun _ => rfl, fun _ i hi => ?_⟩
      rw [result_through_relaxed, hall] at hi
      exact absurd hi (by simp)
  | false =>
      -- Strict loading fails at the head of the list, which is no `longInteger`.
      refine ⟨fun alike => ?_, fun hc => absurd hc (by simp)⟩
      have hfail : (through .relaxed a issues).result = .error .longInteger := by
        rw [result_through_relaxed, hall]
        rfl
      have hstrict := (alike .longInteger hfail).2
      rw [result_through_strict] at hstrict
      cases issues with
      | nil => exact absurd hall (by simp)
      | cons i rest =>
          exact absurd (Except.error.inj hstrict) (h i List.mem_cons_self).ne_longInteger

theorem strictFollows_fail (i : Issue) : StrictFollows (fail i : Loading α) (fail i) where
  silent := rfl
  clean _ h _ := h
  warned _ _ h := absurd h (by simp [fail])

theorem failsAlike_fail (i : Issue) : FailsAlike (fail i : Loading α) (fail i) :=
  fun _ h => ⟨rfl, h⟩

end Loading

namespace Snapshot

/-- **The modes agree, but for reports that cannot be written.**  For a map of sections and for a
text alike: strict loading never warns; it has the result of relaxed loading where that does not
warn, and otherwise fails with an issue whose text is the first warning.  A failure of relaxed
loading is a failure of strict loading, with nothing warned of before, exactly if every issue of the
catalog has a report that can be written. -/
theorem strict_follows_relaxed (file : Option Text) :
    (∀ entries : Entries,
      (build .relaxed file entries).StrictFollows (build .strict file entries) ∧
        ((build .relaxed file entries).FailsAlike (build .strict file entries) ↔
          ∀ i ∈ issues file entries, i.canWrite = true)) ∧
      ∀ (reader : DocumentReader) (source : SourceText),
        (load reader .relaxed file source).StrictFollows (load reader .strict file source) ∧
          ((load reader .relaxed file source).FailsAlike (load reader .strict file source) ↔
            ∀ i ∈ textIssues reader file source, i.canWrite = true) := by
  constructor
  · intro entries
    have hof : ∀ i ∈ issues file entries, i.OfCatalog := fun _ => ofCatalog_of_mem_issues
    simp only [build_eq_through]
    exact ⟨Loading.strictFollows_through _ hof, Loading.failsAlike_through_iff _ hof⟩
  · intro reader source
    rcases load_cases reader file source with ⟨s, hs⟩ | ⟨hnone, i, hi⟩
    · have hof : ∀ i ∈ textIssues reader file source, i.OfCatalog :=
        fun _ => ofCatalog_of_mem_textIssues
      simp only [hs]
      exact ⟨Loading.strictFollows_through _ hof, Loading.failsAlike_through_iff _ hof⟩
    · simp only [hi, hnone]
      refine ⟨Loading.strictFollows_fail i, fun _ _ h => absurd h List.not_mem_nil, fun _ => ?_⟩
      exact Loading.failsAlike_fail i

/-! ### Where the modes part

A section that is no sequence gives a warning; the long integer after it ends relaxed loading all
the same, with the warning emitted. -/

/-- A section that is no sequence, and a section whose one record is an integer. -/
def misplacedThenInteger (n : Int) : Entries :=
  [(.text "actions", .int 1), (.text "locators", .list [.int n])]

theorem isLong_of_le {n : Nat} (h : Nat.pow 10 Numeral.mostDigits ≤ n) : Yaml.isLong n = true :=
  decide_eq_true h

theorem build_relaxed_misplacedThenInteger {n : Int} (h : Yaml.isLong n = true) :
    build .relaxed none (misplacedThenInteger n) =
      ⟨[.sectionShape "actions" none], .error .longInteger⟩ := by
  have hn : Yaml.canWrite (.int n) = false := by
    simp [Yaml.canWrite, h]
  rw [build_eq_through]
  show Loading.through .relaxed _ [.sectionShape "actions" none,
    .badRecord ⟨_, _, .int n, none, some "locators", some 0⟩] = _
  rw [Loading.through_relaxed_cons, Loading.through_relaxed_cons]
  simp [Issue.canWrite, Issue.report, BadRecord.summary, Excerpt.canWrite, hn]

/-- Relaxed loading can fail after a warning, and with another issue than strict loading. -/
theorem fails_apart_at_long_integer :
    ¬ (build .relaxed none (misplacedThenInteger (Nat.pow 10 Numeral.mostDigits : Nat))).FailsAlike
      (build .strict none (misplacedThenInteger (Nat.pow 10 Numeral.mostDigits : Nat))) := by
  intro alike
  have hr := build_relaxed_misplacedThenInteger (isLong_of_le (Nat.le_refl _))
  have hw := (alike .longInteger (by rw [hr])).1
  rw [hr] at hw
  exact absurd hw (by simp)

end Snapshot

end Actionary
