import Actionary.Proofs.Checked
import Actionary.Proofs.SnippetNames

/-!
# Flags and the capability to take them

An action gets its flags from the entity of its record or, if the entity has none, from the record
itself under either of two spellings. It gets the capability to take flags in other ways:

    granted      the entity has flags, whatever they are
    declared     the record names the capability among its own

So flags of the entity come with the capability, and flags of the record itself do not. An action
with such flags and no declared capability is offered its flags, but not the snippets with a list of
flags.
-/

namespace Actionary

/-! ## Sets of capabilities -/

namespace Capabilities

theorem has_insert (s : Capabilities) (c d : Capability) :
    (s.insert d).has c = true ↔ s.has c = true ∨ c = d := by
  cases d <;> cases c <;> simp [has, insert]

theorem has_union (s t : Capabilities) (c : Capability) :
    (s.union t).has c = true ↔ s.has c = true ∨ t.has c = true := by
  cases c <;> simp [has, union]

/-- A set made from a list has the members of the list and no others. -/
theorem has_ofList (cs : List Capability) (c : Capability) : (ofList cs).has c = true ↔ c ∈ cs := by
  suffices h : ∀ (cs : List Capability) (s : Capabilities),
      (cs.foldl insert s).has c = true ↔ s.has c = true ∨ c ∈ cs by
    have hempty : has {} c = false := by
      cases c <;> rfl
    rw [ofList, h, hempty]
    simp
  intro cs
  induction cs with
  | nil => simp
  | cons d ds ih =>
      intro s
      rw [List.foldl_cons, ih, has_insert, List.mem_cons, or_assoc]

/-- A value names a capability among its members. -/
def NamedIn (c : Capability) (v : Value) : Prop :=
  ∃ items, Field.members? v = some items ∧ ∃ w ∈ items, Capability.read w = .valid c

theorem has_iff_namedIn {v : Value} {s : Capabilities} (h : read v = .valid s) (c : Capability) :
    s.has c = true ↔ NamedIn c v := by
  rw [read] at h
  rw [NamedIn]
  cases hitems : Field.members? v with
  | none => exact absurd h (by simp [hitems, Checked.fault])
  | some items =>
      rw [hitems] at h
      obtain ⟨cs, heach, rfl⟩ := Checked.map_eq_valid_iff.mp h
      have hread := Checked.each_eq_valid_iff.mp heach
      have hmem : Checked.valid c ∈ cs.map Checked.valid ↔ c ∈ cs := by simp
      rw [has_ofList, ← hmem, ← hread, List.mem_map]
      simp only [Option.some.injEq, exists_eq_left']

theorem NamedIn.isPresent {c : Capability} {v : Value} (h : NamedIn c v) : v.isPresent = true := by
  obtain ⟨items, hitems, w, hw, -⟩ := h
  have hne : items.isEmpty = false := by
    rw [List.isEmpty_eq_false_iff]
    exact List.ne_nil_of_mem hw
  unfold Field.members? at hitems
  split at hitems
  · obtain rfl := Option.some.inj hitems
    simp [Value.isPresent, hne]
  · obtain rfl := Option.some.inj hitems
    simp [Value.isPresent, hne]
  · obtain rfl := Option.some.inj hitems
    simp [Value.isPresent, hne]
  · exact absurd hitems (by simp)

end Capabilities

/-! ## Where capabilities and flags come from -/

namespace Action

variable {entries : Entries}

/-- What the entity of a record gives as flags. -/
def entityFlags? (entries : Entries) : Option Value :=
  (entity? entries).bind (Value.get? · Capability.flags.name)

/-- What a record gives as flags of its own, under the first of two spellings that it has. -/
def ownFlags? (entries : Entries) : Option Value :=
  (Value.get? entries "cli_arguments").or (Value.get? entries "cliArguments")

/-- A record declares a capability. -/
def Declares (entries : Entries) (c : Capability) : Prop :=
  ∃ v, Value.get? entries "capabilities" = some v ∧ Capabilities.NamedIn c v

theorem not_declares_of_present? (h : present? entries "capabilities" = none) (c : Capability) :
    ¬ Declares entries c := by
  rintro ⟨v, hv, hnamed⟩
  rw [present?, hv] at h
  exact absurd h (by simp [hnamed.isPresent])

theorem present?_eq_some_iff {name : Text} {v : Value} :
    present? entries name = some v ↔ Value.get? entries name = some v ∧ v.isPresent = true := by
  rw [present?]
  cases Value.get? entries name with
  | none => simp
  | some w =>
      simp only [Option.ite_none_right_eq_some, Option.some.injEq]
      constructor
      · rintro ⟨hw, rfl⟩
        exact ⟨rfl, hw⟩
      · rintro ⟨rfl, hw⟩
        exact ⟨hw, rfl⟩

/-- A capability is granted by a property of the entity or, that to take flags, by the flags of the
entity. -/
theorem has_granted (entity : Entries) (c : Capability) :
    (granted entity).has c = true ↔
      (c ∈ propertyCapabilities ∧
          ∃ properties, Value.get? entity "properties" = some (.map properties) ∧
            hasMember properties c.name = true) ∨
        (c = .flags ∧ hasMember entity Capability.flags.name = true) := by
  have hflags : c ∈ (if hasMember entity Capability.flags.name then [Capability.flags] else []) ↔
      c = .flags ∧ hasMember entity Capability.flags.name = true := by
    split
    · next h => simp [h]
    · next h => simp [h]
  rw [granted, Capabilities.has_ofList, List.mem_append, hflags, List.mem_filter]
  refine or_congr_left (and_congr_right fun _ => ?_)
  cases Value.get? entity "properties" with
  | none => simp [hasMember, Value.get?, Value.lookupIn]
  | some v =>
      cases v with
      | map properties => simp
      | _ => simp [hasMember, Value.get?, Value.lookupIn]

/-- A capability is granted by the entity or declared by the record. -/
theorem has_iff_of_readCapabilities {s : Capabilities} (h : readCapabilities entries = .valid s)
    (c : Capability) :
    s.has c = true ↔ (∃ entity, entity? entries = some entity ∧ (granted entity).has c = true) ∨
      Declares entries c := by
  rw [readCapabilities] at h
  cases hentity : entity? entries with
  | none =>
      simp only [hentity, Entries.withDefault] at h
      rw [or_iff_right (by simp), Declares]
      cases hdeclared : Value.get? entries "capabilities" with
      | none =>
          rw [hdeclared] at h
          obtain rfl := Checked.valid.inj h
          cases c <;> simp [Capabilities.has]
      | some v =>
          simp only [hdeclared, Checked.under_eq_valid_iff] at h
          rw [Capabilities.has_iff_namedIn h]
          simp
  | some entity =>
      simp only [hentity] at h
      simp only [Option.some.injEq, exists_eq_left']
      cases hdeclared : present? entries "capabilities" with
      | none =>
          rw [hdeclared] at h
          obtain rfl := Checked.valid.inj h
          rw [or_iff_left (not_declares_of_present? hdeclared _)]
      | some v =>
          simp only [hdeclared, Checked.map_eq_valid_iff, Checked.under_eq_valid_iff] at h
          obtain ⟨declared, hread, rfl⟩ := h
          rw [Capabilities.has_union, Capabilities.has_iff_namedIn hread, or_comm, Declares,
            (present?_eq_some_iff.mp hdeclared).1]
          simp

theorem has_flags_iff_of_readCapabilities {s : Capabilities}
    (h : readCapabilities entries = .valid s) :
    s.has .flags = true ↔ (entityFlags? entries).isSome = true ∨ Declares entries .flags := by
  rw [has_iff_of_readCapabilities h, entityFlags?]
  refine or_congr_left ?_
  cases entity? entries with
  | none => simp
  | some entity => simp [has_granted, propertyCapabilities, hasMember]

theorem ofList_entries_ne_nil (pair : Text × Text) (pairs : List (Text × Text)) :
    (FlagTable.ofList (pair :: pairs)).entries ≠ [] := by
  have hname : pair.1 ∈ (deduplicate (·.1) (pair :: pairs)).map (·.1) :=
    mem_keys_deduplicate.mpr List.mem_cons_self
  intro hnil
  rw [show deduplicate (·.1) (pair :: pairs) = [] from hnil] at hname
  exact absurd hname List.not_mem_nil

/-- Flags are a map, and there are none exactly if the map is empty. -/
theorem flagsField_eq_valid {v : Value} {t : FlagTable} (h : flagsField v = .valid t) :
    ∃ es, v = .map es ∧ (t.entries = [] ↔ es = []) := by
  obtain ⟨pairs, hpairs, rfl⟩ := Checked.map_eq_valid_iff.mp h
  cases v with
  | map es =>
      refine ⟨es, rfl, ?_⟩
      cases es with
      | nil =>
          obtain rfl := Checked.valid.inj hpairs
          exact ⟨fun _ => rfl, fun _ => rfl⟩
      | cons e es =>
          obtain ⟨⟨pair, rest⟩, -, rfl⟩ := Checked.map_eq_valid_iff.mp hpairs
          exact ⟨fun hnil => absurd hnil (ofList_entries_ne_nil pair rest),
            fun hnil => absurd hnil (by simp)⟩
  | _ => exact absurd hpairs (by simp [Field.textMap, Checked.fault])

/-- Flags of the record itself are those of the action, if the entity has none. -/
theorem ownFlags?_of_readFlags {t : FlagTable} (h : readFlags entries = .valid t)
    (hentity : entityFlags? entries = none) :
    (∃ v, ownFlags? entries = some v ∧ flagsField v = .valid t) ∨
      (ownFlags? entries = none ∧ t = .empty) := by
  rw [entityFlags?] at hentity
  simp only [readFlags, hentity] at h
  rw [ownFlags?]
  cases hfirst : Value.get? entries "cli_arguments" with
  | some v =>
      rw [hfirst] at h
      exact Or.inl ⟨v, rfl, Checked.under_eq_valid_iff.mp h⟩
  | none =>
      simp only [hfirst, Entries.withDefault] at h
      rw [Option.none_or]
      cases hsecond : Value.get? entries "cliArguments" with
      | some v =>
          rw [hsecond] at h
          exact Or.inl ⟨v, rfl, Checked.under_eq_valid_iff.mp h⟩
      | none =>
          rw [hsecond] at h
          exact Or.inr ⟨rfl, (Checked.valid.inj h).symm⟩

theorem entries_eq_nil_iff_of_readFlags {t : FlagTable} (h : readFlags entries = .valid t)
    (hentity : entityFlags? entries = none) :
    t.entries = [] ↔ ∀ e es, ownFlags? entries ≠ some (.map (e :: es)) := by
  rcases ownFlags?_of_readFlags h hentity with ⟨v, hown, hfield⟩ | ⟨hown, rfl⟩
  · obtain ⟨es, rfl, hnil⟩ := flagsField_eq_valid hfield
    rw [hnil, hown]
    cases es with
    | nil => simp
    | cons e es => simp
  · rw [hown]
    exact ⟨fun _ _ _ => by simp, fun _ => rfl⟩

end Action

/-! ## The snippet with a list of flags -/

/-- The snippet with a list of flags is there exactly if the action has the capability. -/
theorem Snippet.flags_seed_mem_namesOf_iff (choices : Choices) (a : Action) :
    a.phrase ++ " w/ arguments" ∈ namesOf choices a ↔ a.has .flags = true := by
  have hself : ∀ (start : Part) (ps : List Part), start.name ∈ (chain start ps).map (·.name) := by
    intro start ps
    cases ps with
    | nil => exact List.mem_cons_self
    | cons p ps => exact List.mem_cons_self
  rw [namesOf_eq, List.mem_flatMap]
  constructor
  · rintro ⟨start, hstart, hname⟩
    by_contra hflags
    rw [seeds, if_neg hflags] at hstart
    obtain rfl := List.mem_singleton.mp hstart
    -- The first chain never comes to the letter behind `argument`.
    have hs : a.phrase ++ " w/ arguments" = a.phrase ++ " w/ argument" ++ "s" := by
      rw [Text.append_assoc]
      rfl
    rw [hs] at hname
    exact disjoint_chain_names _ _ "" _ hname (hself ⟨_, ""⟩ _)
  · intro hflags
    refine ⟨⟨a.phrase ++ " w/ arguments", actionFragment a ++ " " ++ flagsFragment⟩, ?_, hself _ _⟩
    rw [seeds, if_pos hflags]
    exact List.mem_cons_of_mem _ List.mem_cons_self

/-! ## Flags and the capability together -/

namespace Action

/-- **An action has the capability to take flags exactly if the entity of its record has flags or
the record declares it**, and with the capability it has the snippet with a list of flags. So flags
imply the capability exactly if one of the two is there, or the record has no flags of its own. -/
theorem flags_imply_capability_iff (v : Value) (a : Action) (h : read v = .valid a) :
    ∃ entries, v = .map entries ∧
      (a.has .flags = true ↔ (entityFlags? entries).isSome = true ∨ Declares entries .flags) ∧
      (∀ choices, a.phrase ++ " w/ arguments" ∈ (Snippet.compile choices a).map (·.name) ↔
        a.has .flags = true) ∧
      ((a.flags.entries ≠ [] → a.has .flags = true) ↔
        (entityFlags? entries).isSome = true ∨ Declares entries .flags ∨
          ∀ e es, ownFlags? entries ≠ some (.map (e :: es))) := by
  cases v with
  | map entries =>
      obtain ⟨-, -, -, -, -, hcapabilities, hflags, -⟩ := readFields_eq_valid_iff.mp h
      have hhas := has_flags_iff_of_readCapabilities hcapabilities
      refine ⟨entries, rfl, hhas, fun choices => Snippet.flags_seed_mem_namesOf_iff choices a, ?_⟩
      cases hentity : entityFlags? entries with
      | some flags =>
          have hgranted : a.has .flags = true := hhas.mpr (Or.inl (by rw [hentity]; rfl))
          exact ⟨fun _ => Or.inl rfl, fun _ _ => hgranted⟩
      | none =>
          have hown := entries_eq_nil_iff_of_readFlags hflags hentity
          rw [hentity] at hhas
          rw [show a.has .flags = true ↔ _ from hhas, ne_eq, hown]
          simp only [Option.isSome_none, Bool.false_eq_true, false_or]
          tauto
  | _ => exact absurd h (by simp [read, readRecord, Checked.fault])

/-- A record with one flag of its own, and other members. -/
def ownFlagRecord (spelling : Text) (others : Entries) : Value :=
  .map ((.text "key", .text "Click") ::
    (.text spelling, .map [(.text "force", .text "Force the click.")]) :: others)

/-- The capability is there where the record declares it. -/
theorem declared_capability_of_ownFlagRecord :
    ∃ a, read (ownFlagRecord "cli_arguments"
        [(.text "capabilities", .list [.text "cliArguments"])]) = .valid a ∧
      (a.flags.entries ≠ [] → a.has .flags = true) := by
  refine ⟨_, rfl, ?_⟩
  obtain ⟨entries, hentries, -, -, himply⟩ := flags_imply_capability_iff
    (ownFlagRecord "cli_arguments" [(.text "capabilities", .list [.text "cliArguments"])]) _ rfl
  obtain rfl := Value.map.inj hentries
  exact himply.mpr (Or.inr (Or.inl ⟨_, rfl, _, rfl, _, List.mem_cons_self, rfl⟩))

/-- **Flags of the record itself come without the capability**, though the record has an entity to
grant it. -/
theorem flags_without_capability :
    ¬ ∀ a, read (ownFlagRecord "cliArguments" [(.text "entity", .map [])]) = .valid a →
      a.flags.entries ≠ [] → a.has .flags = true := by
  intro h
  exact absurd (h _ rfl (by decide)) (by decide)

end Action

end Actionary
