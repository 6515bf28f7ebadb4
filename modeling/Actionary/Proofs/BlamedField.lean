import Actionary.Catalog.Issue
import Actionary.Proofs.Checked
import Actionary.Proofs.RecordMembers

/-!
# The field that a report names

The report on a bad record shows the first field of the record that has a fault. Faults are found in
what is read as the content of a field, and the field is then looked up in the record by its name.
The two differ where something takes the place of what the record holds:

    description      that of the entity, if the record's own does not count
    cli_arguments    the flags of the entity, if it has some
    literal          the phrase of the key, if the record's own does not count
    cliArguments     nothing, if there are flags of the entity or under the other spelling
    capabilities     nothing, if they do not count and there is an entity

There is no fault in a phrase or in nothing, so a report is misled in the first two cases only: it
then shows what the record holds, whether or not that would be refused by itself.
-/

namespace Actionary

namespace Checked

variable {α β : Type}

@[simp] theorem faults_map (f : α → β) (x : Checked α) : (x.map f).faults = x.faults := by
  cases x <;> rfl

@[simp] theorem faults_under (step : Step) (x : Checked α) :
    (x.under step).faults = x.faults.map (·.under step) := by
  cases x <;> rfl

@[simp] theorem faults_apply (f : Checked (α → β)) (x : Checked α) :
    (f.apply x).faults = f.faults ++ x.faults := by
  cases f <;> cases x <;> simp [apply, both, map, faults]

end Checked

/-- The fields of an action under the names that they have in a record, in the order they are read.
The flags have two names. -/
inductive ActionField where
  | description
  | key
  | verb
  | literal
  | aliases
  | capabilities
  | flags
  | otherFlags
  | source
deriving DecidableEq

namespace ActionField

/-- The name of a field in a record. -/
def name : ActionField → Text
  | .description => "description"
  | .key => "key"
  | .verb => "verb"
  | .literal => "literal"
  | .aliases => "aliases"
  | .capabilities => "capabilities"
  | .flags => "cli_arguments"
  | .otherFlags => "cliArguments"
  | .source => "source"

theorem name_injective {f g : ActionField} (h : f.name = g.name) : f = g := by
  cases f <;> cases g <;> first | rfl | exact absurd h (by decide)

/-- All fields. -/
def all : List ActionField :=
  [.description, .key, .verb, .literal, .aliases, .capabilities, .flags, .otherFlags, .source]

theorem mem_all (f : ActionField) : f ∈ all := by
  cases f <;> decide

/-- Whether a field must have a content. -/
def isRequired : ActionField → Bool
  | .key | .literal => true
  | _ => false

/-- The faults of a value as the content of a field. -/
def check : ActionField → Value → List Fault
  | .description, v | .verb, v | .literal, v | .source, v => (Field.text v).faults
  | .key, v => (Action.keyField v).faults
  | .aliases, .null => []
  | .aliases, v => (Field.texts v).faults
  | .capabilities, v => (Capabilities.read v).faults
  | .flags, v | .otherFlags, v => (Action.flagsField v).faults

/-- The value is acceptable as the content of a field. -/
def Accepts (f : ActionField) (v : Value) : Prop :=
  f.check v = []

instance (f : ActionField) (v : Value) : Decidable (f.Accepts v) :=
  inferInstanceAs (Decidable (f.check v = []))

/-- The faults of a field with a content, or with none. -/
def faultsOf (f : ActionField) : Option Value → List Fault
  | some v => (f.check v).map (·.under (.field f.name))
  | none => if f.isRequired then [⟨.missing, [.field f.name]⟩] else []

theorem head?_path_of_mem_faultsOf {f : ActionField} {content : Option Value} {fault : Fault}
    (h : fault ∈ f.faultsOf content) : fault.path.head? = some (.field f.name) := by
  cases content with
  | none =>
      rw [faultsOf] at h
      split at h
      · rw [List.mem_singleton.mp h]
        rfl
      · nomatch h
  | some v =>
      obtain ⟨inner, -, rfl⟩ := List.mem_map.mp h
      rfl

theorem faultsOf_some_eq_nil_iff {f : ActionField} {v : Value} :
    f.faultsOf (some v) = [] ↔ f.Accepts v :=
  List.map_eq_nil_iff

end ActionField

namespace Action

open ActionField

variable {entries : Entries} {f : ActionField} {v : Value}

/-! ## What is read as the content of a field -/

/-- What is read as the content of a field: what the record holds, unless something takes its place.
-/
def content? (entries : Entries) : ActionField → Option Value
  | .description =>
    match present? entries "description", (entity? entries).bind (present? · "description") with
    | none, some v => some v
    | _, _ => Value.get? entries "description"
  | .literal =>
    match present? entries "literal", Value.get? entries "key" with
    | none, some (.text key) => some (.text (phraseOf key))
    | _, _ => Value.get? entries "literal"
  | .capabilities =>
    match entity? entries with
    | none => Value.get? entries "capabilities"
    | some _ => present? entries "capabilities"
  | .flags =>
    match entityFlags? entries with
    | some v => some (describedFlags v)
    | none => Value.get? entries "cli_arguments"
  | .otherFlags =>
    match entityFlags? entries, Value.get? entries "cli_arguments" with
    | none, none => Value.get? entries "cliArguments"
    | _, _ => none
  | f => Value.get? entries f.name

/-- The faults in the content of a field. -/
def faultsIn (entries : Entries) (f : ActionField) : List Fault :=
  f.faultsOf (content? entries f)

theorem faults_under_field {α : Type} {x : Checked α} (hx : x.faults = f.check v) :
    (x.under (.field f.name)).faults = f.faultsOf (some v) := by
  rw [Checked.faults_under, hx, faultsOf]

theorem faults_required {α : Type} {read : Value → Checked α}
    (hread : ∀ v, (read v).faults = f.check v) (hf : f.isRequired = true) :
    (entries.required f.name read).faults = f.faultsOf (Value.get? entries f.name) := by
  rw [Entries.required]
  cases Value.get? entries f.name with
  | none => rw [faultsOf, if_pos hf]; rfl
  | some v => exact faults_under_field (hread v)

theorem faults_withDefault {α : Type} {default : α} {read : Value → Checked α}
    (hread : ∀ v, (read v).faults = f.check v) (hf : f.isRequired = false) :
    (entries.withDefault f.name default read).faults = f.faultsOf (Value.get? entries f.name) := by
  rw [Entries.withDefault]
  cases Value.get? entries f.name with
  | none => rw [faultsOf, hf]; rfl
  | some v => exact faults_under_field (hread v)

theorem faults_readDescription :
    (readDescription entries).faults = faultsIn entries .description := by
  rw [readDescription, faultsIn, content?]
  cases present? entries "description" with
  | some _ => exact faults_withDefault (f := .description) (fun _ => rfl) rfl
  | none =>
      cases (entity? entries).bind (present? · "description") with
      | some v => exact faults_under_field (f := .description) rfl
      | none => exact faults_withDefault (f := .description) (fun _ => rfl) rfl

theorem faults_readLiteral : (readLiteral entries).faults = faultsIn entries .literal := by
  have hown : (entries.required "literal" Field.text).faults = _ :=
    faults_required (f := .literal) (fun _ => rfl) rfl
  rw [readLiteral, faultsIn, content?]
  cases present? entries "literal" with
  | some _ => exact hown
  | none =>
      cases Value.get? entries "key" with
      | none => exact hown
      | some key =>
          cases key with
          | text key => rfl
          | _ => exact hown

theorem faults_readAliases : (readAliases entries).faults = faultsIn entries .aliases := by
  have hcontent : faultsIn entries .aliases =
      ActionField.aliases.faultsOf (Value.get? entries "aliases") := rfl
  rw [readAliases, hcontent, Entries.withDefault]
  cases Value.get? entries "aliases" with
  | none => rfl
  | some v =>
      cases v with
      | null => rfl
      | _ => exact faults_under_field (f := .aliases) rfl

theorem faults_readCapabilities :
    (readCapabilities entries).faults = faultsIn entries .capabilities := by
  rw [readCapabilities, faultsIn, content?]
  cases entity? entries with
  | none => exact faults_withDefault (f := .capabilities) (fun _ => rfl) rfl
  | some entity =>
      cases present? entries "capabilities" with
      | none => rfl
      | some v => exact (Checked.faults_map _ _).trans (faults_under_field (f := .capabilities) rfl)

theorem faults_readFlags :
    (readFlags entries).faults = faultsIn entries .flags ++ faultsIn entries .otherFlags := by
  rw [faultsIn, faultsIn, content?, content?, readFlags, ← entityFlags?]
  cases entityFlags? entries with
  | some v => exact (faults_under_field (f := .flags) rfl).trans (List.append_nil _).symm
  | none =>
      cases Value.get? entries "cli_arguments" with
      | some v => exact (faults_under_field (f := .flags) rfl).trans (List.append_nil _).symm
      | none => exact faults_withDefault (f := .otherFlags) (fun _ => rfl) rfl

/-- The faults of a record are those in the contents of its fields, field by field. -/
theorem faults_read : (read (.map entries)).faults = all.flatMap (faultsIn entries) := by
  have hkey : (entries.required "key" keyField).faults = faultsIn entries .key :=
    faults_required (f := .key) (fun _ => rfl) rfl
  have hverb : (entries.withDefault "verb" defaultVerb Field.text).faults =
      faultsIn entries .verb :=
    faults_withDefault (f := .verb) (fun _ => rfl) rfl
  have hsource : (entries.withDefault "source" ("" : Text) Field.text).faults =
      faultsIn entries .source :=
    faults_withDefault (f := .source) (fun _ => rfl) rfl
  show (readFields entries).faults = _
  simp only [readFields, Checked.faults_apply, faults_readDescription, hkey, hverb,
    faults_readLiteral, faults_readAliases, faults_readCapabilities, faults_readFlags, hsource]
  simp [all, Checked.faults]

/-! ## Where a record is refused -/

/-- The record is refused with a fault in the field of a name. -/
def RefusedAt (entries : Entries) (name : Text) : Prop :=
  ∃ fault ∈ (read (.map entries)).faults, fault.path.head? = some (.field name)

theorem exists_field_of_mem_faults {fault : Fault} (h : fault ∈ (read (.map entries)).faults) :
    ∃ f, fault ∈ faultsIn entries f ∧ fault.path.head? = some (.field (name f)) := by
  rw [faults_read] at h
  obtain ⟨f, -, hfault⟩ := List.mem_flatMap.mp h
  exact ⟨f, hfault, head?_path_of_mem_faultsOf hfault⟩

theorem refusedAt_iff : RefusedAt entries f.name ↔ faultsIn entries f ≠ [] := by
  constructor
  · rintro ⟨fault, hfault, hhead⟩ hnil
    obtain ⟨g, hg, hg'⟩ := exists_field_of_mem_faults hfault
    have hname : f.name = g.name := by simpa [hhead] using hg'
    rw [← name_injective hname, hnil] at hg
    nomatch hg
  · intro hne
    obtain ⟨fault, hfault⟩ := List.exists_mem_of_ne_nil _ hne
    exact ⟨fault, faults_read ▸ List.mem_flatMap.mpr ⟨f, mem_all f, hfault⟩,
      head?_path_of_mem_faultsOf hfault⟩

/-- The field has its content from the entity of the record. -/
def FromEntity (entries : Entries) : ActionField → Prop
  | .description =>
    present? entries "description" = none ∧
    ((entity? entries).bind (present? · "description")).isSome
  | .flags => (entityFlags? entries).isSome
  | _ => False

theorem not_fromEntity_of_no_entity (h : entity? entries = none) : ¬ FromEntity entries f := by
  cases f <;> simp [FromEntity, entityFlags?, h]

/-- A field that has a fault and does not come from the entity has it in what the record holds. -/
theorem content?_eq_of_refusedAt (hv : Value.get? entries f.name = some v)
    (hentity : ¬ FromEntity entries f)
    (hrefused : RefusedAt entries f.name) : content? entries f = some v := by
  have hne : f.faultsOf (content? entries f) ≠ [] := refusedAt_iff.mp hrefused
  cases f with
  | description =>
      rw [content?]
      cases hown : present? entries "description" with
      | some _ => exact hv
      | none =>
          cases hgiven : (entity? entries).bind (present? · "description") with
          | none => exact hv
          | some _ => exact absurd ⟨hown, by rw [hgiven]; rfl⟩ hentity
  | literal =>
      rw [content?] at hne ⊢
      cases hown : present? entries "literal" with
      | some _ => exact hv
      | none =>
          cases hkey : Value.get? entries "key" with
          | none => exact hv
          | some key =>
              rw [hown, hkey] at hne
              cases key with
              | text key =>
                  -- A phrase is a text, and there is no fault in it.
                  exact absurd rfl hne
              | _ => exact hv
  | capabilities =>
      rw [content?] at hne ⊢
      cases hbag : entity? entries with
      | none => exact hv
      | some entity =>
          cases hcount : present? entries "capabilities" with
          | none => simp [hbag, hcount, faultsOf, isRequired] at hne
          | some w => exact (present?_eq_some_iff.mp hcount).1.symm.trans hv
  | flags =>
      rw [content?, Option.not_isSome_iff_eq_none.mp hentity]
      exact hv
  | otherFlags =>
      rw [content?] at hne ⊢
      cases hflags : entityFlags? entries with
      | some _ => simp [hflags, faultsOf, isRequired] at hne
      | none =>
          cases hown : Value.get? entries "cli_arguments" with
          | some _ => simp [hflags, hown, faultsOf, isRequired] at hne
          | none => exact hv
  | key => exact hv
  | verb => exact hv
  | aliases => exact hv
  | source => exact hv

/-- What a record holds in a field that does not come from the entity is refused there exactly if it
is read and is not acceptable. -/
theorem refusedAt_iff_not_accepts (hv : Value.get? entries f.name = some v)
    (hentity : ¬ FromEntity entries f) :
    RefusedAt entries f.name ↔ content? entries f = some v ∧ ¬ f.Accepts v := by
  rw [← faultsOf_some_eq_nil_iff]
  constructor
  · intro hrefused
    have hcontent := content?_eq_of_refusedAt hv hentity hrefused
    exact ⟨hcontent, hcontent ▸ refusedAt_iff.mp hrefused⟩
  · rintro ⟨hcontent, hne⟩
    rw [refusedAt_iff, faultsIn, hcontent]
    exact hne

/-! ## A value by itself -/

/-- A record without an entity that holds a value in a field and has no fault in any other. -/
structure OtherwiseValid (f : ActionField) (v : Value) (entries : Entries) : Prop where
  distinct : entries.Distinct
  no_entity : Value.get? entries "entity" = none
  holds : Value.get? entries f.name = some v
  elsewhere : ∀ fault ∈ (read (.map entries)).faults, fault.path.head? = some (.field f.name)

theorem OtherwiseValid.refusedAt_iff (h : OtherwiseValid f v entries) :
    RefusedAt entries f.name ↔ content? entries f = some v ∧ ¬ f.Accepts v := by
  refine refusedAt_iff_not_accepts h.holds (not_fromEntity_of_no_entity ?_)
  rw [entity?, h.no_entity]

/-- A record with a value in a field. The key is not given as a text, or else its phrase could take
the place of the literal. -/
def probe (f : ActionField) (v : Value) : Entries :=
  Value.assign [(.text "key", .bytes [65]), (.text "literal", .text "a")] f.name v

theorem content?_probe (f : ActionField) (v : Value) : content? (probe f v) f = some v := by
  cases f with
  | description =>
      rw [content?]
      cases present? (probe .description v) "description" <;> rfl
  | literal =>
      rw [content?]
      cases present? (probe .literal v) "literal" <;> rfl
  | _ => rfl

theorem accepts_key_of_probe : ActionField.key.Accepts (.bytes [65]) := by
  decide +kernel

theorem faultsIn_probe {g : ActionField} (h : g ≠ f) (v : Value) : faultsIn (probe f v) g = [] := by
  cases g with
  | key =>
      cases f with
      | key => exact absurd rfl h
      | _ => exact faultsOf_some_eq_nil_iff.mpr accepts_key_of_probe
  | _ => cases f <;> first | rfl | contradiction

theorem otherwiseValid_probe (f : ActionField) (v : Value) : OtherwiseValid f v (probe f v) where
  distinct := by
    refine Entries.Distinct.put ?_ _ _
    simp [Entries.Distinct, Text.ofString]
  no_entity := by cases f <;> rfl
  holds := by cases f <;> rfl
  elsewhere := by
    intro fault hfault
    obtain ⟨g, hg, hhead⟩ := exists_field_of_mem_faults hfault
    by_cases hgf : g = f
    · rw [hhead, hgf]
    · rw [faultsIn_probe hgf v] at hg
      nomatch hg

end Action

/-! ## The report -/

/-- The field that the report on a record names, with the headline and what the record holds there.
-/
def blamed? (entries : Entries) (faults : List Fault) : Option (Text × Step × Value) :=
  faults.findSome? fun fault => locate? entries fault.path fault.message

theorem locate?_eq_some {entries : Entries} {path : List Step} {message line : Text}
    {step : Step} {v : Value} (h : locate? entries path message = some (line, step, v)) :
    path.head? = some step ∧ Value.lookupIn step.toValue entries = some v := by
  cases path with
  | nil => nomatch h
  | cons first rest =>
      simp only [locate?] at h
      split at h
      · next w headline hw _ =>
          simp only [Option.some.injEq, Prod.mk.injEq] at h
          obtain ⟨-, rfl, rfl⟩ := h
          exact ⟨rfl, hw⟩
      · nomatch h

namespace Action

variable {entries : Entries} {first : Fault} {others : List Fault} {line : Text}
    {step : Step} {v : Value}

theorem summary_of_blamed? (h : blamed? entries (first :: others) = some (line, step, v))
    (file sectionName : Option Text) (position : Option Int) :
    BadRecord.summary ⟨first, others, .map entries, file, sectionName, position⟩ =
      (line, .map [(step.toValue, v)]) := by
  rw [blamed?] at h
  cases entries with
  | nil =>
      obtain ⟨fault, -, hlocate⟩ := List.exists_of_findSome?_eq_some h
      nomatch (locate?_eq_some hlocate).2
  | cons e rest =>
      simp only [BadRecord.summary, BadRecord.faults, List.isEmpty_cons, Bool.false_eq_true,
        if_false, h]

/-- A report names a field that the record has and that has a fault. -/
theorem refusedAt_of_blamed? (hread : read (.map entries) = .faulty first others)
    (h : blamed? entries (first :: others) = some (line, step, v)) :
    ∃ f : ActionField, step = .field f.name ∧ Value.get? entries f.name = some v ∧
      RefusedAt entries f.name := by
  obtain ⟨fault, hmem, hlocate⟩ := List.exists_of_findSome?_eq_some h
  obtain ⟨hstep, hv⟩ := locate?_eq_some hlocate
  have hfault : fault ∈ (read (.map entries)).faults := hread ▸ hmem
  obtain ⟨f, -, hhead⟩ := exists_field_of_mem_faults hfault
  obtain rfl : step = .field f.name := Option.some.inj (hstep.symm.trans hhead)
  exact ⟨f, rfl, hv, fault, hfault, hhead⟩

/-- **A report names a field with a value that is refused by itself, except where the entity took
the place of an acceptable one.** If the report on a record names a field, then the record has it,
and what it holds there is all that the report shows. Some record without an entity that holds the
same and is otherwise valid is refused at the field, unless the faulty content came from the entity
and what the record holds is acceptable; then none is. And of those records, all are refused in
which what they hold is what is read: a literal that does not count is not read beside a text as the
key, and flags are not read beside flags of the other spelling. -/
theorem refused_alone_iff_of_blamed (hread : read (.map entries) = .faulty first others)
    (hblamed : blamed? entries (first :: others) = some (line, step, v)) :
    ∃ f : ActionField, step = .field f.name ∧ Value.get? entries f.name = some v ∧
      (∀ file sectionName position,
        BadRecord.summary ⟨first, others, .map entries, file, sectionName, position⟩ =
          (line, .map [(.text f.name, v)])) ∧
      ((∃ plain, OtherwiseValid f v plain ∧ RefusedAt plain f.name) ↔
        ¬ (FromEntity entries f ∧ f.Accepts v)) ∧
      ∀ plain, OtherwiseValid f v plain →
        (RefusedAt plain f.name ↔ content? plain f = some v ∧
          ¬ (FromEntity entries f ∧ f.Accepts v)) := by
  obtain ⟨f, rfl, hv, hrefused⟩ := refusedAt_of_blamed? hread hblamed
  -- The field was refused, so what the record holds is acceptable only if something else was read.
  have hsound : f.Accepts v ↔ FromEntity entries f ∧ f.Accepts v := by
    refine ⟨fun haccepts => ⟨Classical.byContradiction fun hentity => ?_, haccepts⟩, And.right⟩
    exact ((refusedAt_iff_not_accepts hv hentity).mp hrefused).2 haccepts
  refine ⟨f, rfl, hv, summary_of_blamed? hblamed, ?_⟩
  rw [← hsound]
  refine ⟨?_, fun plain hplain => hplain.refusedAt_iff⟩
  constructor
  · rintro ⟨plain, hplain, hat⟩
    exact (hplain.refusedAt_iff.mp hat).2
  · intro hnot
    have hprobe := otherwiseValid_probe f v
    exact ⟨probe f v, hprobe, hprobe.refusedAt_iff.mpr ⟨content?_probe f v, hnot⟩⟩

/-- A record that holds a value in a field, and whose entity holds a number in a member. -/
def overruled (name : Text) (v : Value) (member : Text) : Entries :=
  [(.text "key", .text "Tap"), (.text name, v), (.text "entity", .map [(.text member, .int 5)])]

/-- Nothing does not count as a description, so that of the entity is read; but it would be refused
as well. -/
theorem null_description_refused_alone :
    read (.map (overruled "description" .null "description")) =
      .faulty ⟨.notText, [.field "description"]⟩ [] ∧
      ∃ plain, OtherwiseValid .description .null plain ∧ RefusedAt plain "description" := by
  refine ⟨rfl, ?_⟩
  have hblamed : blamed? (overruled "description" .null "description")
      [⟨.notText, [.field "description"]⟩] =
      some (("Input should be a valid string" : Text), .field "description", .null) := rfl
  obtain ⟨f, hf, -, -, hrefused, -⟩ := refused_alone_iff_of_blamed rfl hblamed
  obtain rfl : ActionField.description = f := ActionField.name_injective (Step.field.inj hf)
  exact hrefused.mpr fun h => absurd h.2 (by decide)

/-- The report shows an empty description or no flags, which are acceptable in every record without
an entity: the fault is in what the entity holds. -/
theorem report_shows_acceptable_value :
    (BadRecord.summary ⟨⟨.notText, [.field "description"]⟩, [],
          .map (overruled "description" (.text "") "description"), none, none, none⟩ =
        (("Input should be a valid string" : Text), .map [(.text "description", .text "")]) ∧
      read (.map (overruled "description" (.text "") "description")) =
        .faulty ⟨.notText, [.field "description"]⟩ [] ∧
      ∀ plain, OtherwiseValid .description (.text "") plain → ¬ RefusedAt plain "description") ∧
    (BadRecord.summary ⟨⟨.notMap, [.field "cli_arguments"]⟩, [],
          .map (overruled "cli_arguments" (.map []) "cliArguments"), none, none, none⟩ =
        (("Input should be a valid dictionary" : Text), .map [(.text "cli_arguments", .map [])]) ∧
      read (.map (overruled "cli_arguments" (.map []) "cliArguments")) =
        .faulty ⟨.notMap, [.field "cli_arguments"]⟩ [] ∧
      ∀ plain, OtherwiseValid .flags (.map []) plain → ¬ RefusedAt plain "cli_arguments") :=
  ⟨⟨rfl, rfl, fun _ hplain hat => (hplain.refusedAt_iff.mp hat).2 rfl⟩,
    ⟨rfl, rfl, fun _ hplain hat => (hplain.refusedAt_iff.mp hat).2 rfl⟩⟩

end Action

end Actionary
