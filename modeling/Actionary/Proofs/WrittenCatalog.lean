import Actionary.Proofs.Encoding
import Actionary.Proofs.FlagCapability
import Actionary.Proofs.StrictReading

/-!
# Catalogs written back

A catalog can be written as a map of sections again, each entry as a record of its own fields.
Reading changes records in many ways: a literal is made from the key, flags and capabilities are
taken from an entity, other names that are null are dropped, bytes are decoded, an action takes the
place of an earlier one. None of this happens to a record that was written back, so building gives
the catalog it was written from. The one condition is that no literal is empty
(`build_document_iff`): an empty one reads as none, and another is made from the key.

A record with a key that is a text never gives an empty literal. So what building made of such
records comes back.
-/

namespace Actionary

/-! ## Written forms -/

/-- An order in which the capabilities of each action are listed. -/
structure CapabilityOrder where
  list : Action → List Capability
  /-- The list has the capabilities of the action and no others. -/
  mem_list : ∀ (a : Action) (c : Capability), c ∈ list a ↔ a.capabilities.has c = true

/-- The order in which the kinds of capabilities are declared. -/
def CapabilityOrder.declared : CapabilityOrder where
  list a := a.capabilities.toList
  mem_list a c := by
    have hall : c ∈ Capability.all := by
      cases c <;> decide
    rw [Capabilities.toList, List.mem_filter, and_iff_right hall]

/-- Flags as a map, in their order. -/
def FlagTable.written (t : FlagTable) : Value :=
  .map (t.entries.map fun e => (.text e.1, .text e.2))

/-- The fields of an action. -/
def Action.fields (order : CapabilityOrder) (a : Action) : Entries :=
  [(.text "description", .text a.description), (.text "key", .text a.key.text),
    (.text "verb", .text a.verb), (.text "literal", .text a.literal),
    (.text "aliases", .list (a.aliases.map .text)),
    (.text "capabilities", .list ((order.list a).map fun c => .text c.name)),
    (.text "cli_arguments", a.flags.written), (.text "source", .text a.source)]

/-- An action as a record of its fields. -/
def Action.written (order : CapabilityOrder) (a : Action) : Value :=
  .map (a.fields order)

/-- A short entry as a record of its fields. -/
def writtenEntry (field description text : Text) : Value :=
  .map [(.text "description", .text description), (.text field, .text text)]

/-- A locator as a record. -/
def Locator.written (l : Locator) : Value :=
  writtenEntry "literal" l.description l.literal

/-- An attribute as a record. -/
def Attribute.written (a : Attribute) : Value :=
  writtenEntry "key" a.description a.key

/-- An annotation as a record. -/
def Annotation.written (a : Annotation) : Value :=
  writtenEntry "key" a.description a.key

/-- A catalog as a map of its four sections. -/
def Snapshot.document (order : CapabilityOrder) (s : Snapshot) : Entries :=
  [(.text "actions", .list (s.actions.map (Action.written order))),
    (.text "locators", .list (s.locators.map Locator.written)),
    (.text "attributes", .list (s.attributes.map Attribute.written)),
    (.text "annotations", .list (s.annotations.map Annotation.written))]

/-! ## Reading the parts of a record back -/

theorem map_read_map_written {α : Type} {read : Value → Checked α} {write : α → Value}
    {items : List α} (h : ∀ a ∈ items, read (write a) = .valid a) :
    (items.map write).map read = items.map .valid := by
  rw [List.map_map]
  exact List.map_congr_left h

theorem Field.texts_written (texts : List Text) :
    Field.texts (.list (texts.map .text)) = .valid texts :=
  Checked.each_eq_valid_iff.mpr (map_read_map_written fun _ _ => rfl)

theorem Capability.read_name (c : Capability) : Capability.read (.text c.name) = .valid c := by
  cases c with
  | flags => rfl
  | argument => rfl
  | element => rfl
  | elementAttribute => rfl
  | regex => rfl

/-- A set of capabilities is known by its members. -/
theorem Capabilities.eq_of_has {s t : Capabilities}
    (h : ∀ c, s.has c = true ↔ t.has c = true) : s = t := by
  have hhas : ∀ c, s.has c = t.has c := fun c => Bool.eq_iff_iff.mpr (h c)
  rw [show s = ⟨s.has .flags, s.has .argument, s.has .element, s.has .elementAttribute,
    s.has .regex⟩ from rfl]
  simp only [hhas]
  rfl

/-- A set of capabilities is read from the names of its members, in any order. -/
theorem Capabilities.read_names {s : Capabilities} {cs : List Capability}
    (h : ∀ c, c ∈ cs ↔ s.has c = true) :
    read (.list (cs.map fun c => .text c.name)) = .valid s := by
  have heach : Checked.each Capability.read (cs.map fun c => .text c.name) = .valid cs :=
    Checked.each_eq_valid_iff.mpr (map_read_map_written fun c _ => Capability.read_name c)
  refine Checked.map_eq_valid_iff.mpr ⟨cs, heach, eq_of_has fun c => ?_⟩
  rw [has_ofList, h]

theorem Field.textEntries_written (pairs : List (Text × Text)) :
    Field.textEntries (pairs.map fun e => (.text e.1, .text e.2)) = .valid pairs := by
  induction pairs with
  | nil => rfl
  | cons e es ih =>
      rw [List.map_cons, Field.textEntries, ih]
      rfl

theorem FlagTable.flagsField_written (t : FlagTable) : Action.flagsField t.written = .valid t := by
  obtain ⟨entries, distinct⟩ := t
  have hkeep : deduplicate (·.1) entries = entries := deduplicate_eq_self distinct
  refine Checked.map_eq_valid_iff.mpr ⟨entries, Field.textEntries_written entries, ?_⟩
  simp only [FlagTable.ofList, hkeep]

/-! ## Reading records back -/

theorem Field.encoded_eq_valid_iff {s t : Text} :
    encoded s = .valid t ↔ s.hasHalf = false ∧ s = t := by
  rw [encoded]
  cases s.hasHalf <;> simp [Checked.fault]

theorem ActionKey.ofText?_eq_some_iff {s : Text} {k : ActionKey} :
    ofText? s = some k ↔ s = k.text := by
  constructor
  · intro h
    obtain ⟨hs, h⟩ := Option.dite_none_right_eq_some.mp h
    exact congrArg ActionKey.text (Option.some.inj h)
  · rintro rfl
    exact dif_pos k.valid

theorem Value.isPresent_text {s : Text} : (Value.text s).isPresent = true ↔ s ≠ "" := by
  simp [isPresent, Text.isEmpty, ← Text.toList_inj]

namespace Action

variable {entries : Entries}

theorem readDescription_of_no_entity (h : entity? entries = none) :
    readDescription entries = entries.withDefault "description" ("" : Text) Field.text := by
  rw [readDescription, h, Option.bind_none]
  cases present? entries "description" with
  | none => rfl
  | some v => rfl

theorem keyField_text_iff {s : Text} {k : ActionKey} :
    keyField (.text s) = .valid k ↔ s = k.text := by
  rw [keyField, Field.text, Checked.bind]
  constructor
  · intro h
    obtain ⟨t, ht, hk⟩ := Checked.bind_eq_valid_iff.mp h
    obtain ⟨-, rfl⟩ := Field.encoded_eq_valid_iff.mp ht
    split at hk
    · rename_i l hl
      rw [← Checked.valid.inj hk]
      exact ActionKey.ofText?_eq_some_iff.mp hl
    · cases hk
  · rintro rfl
    refine Checked.bind_eq_valid_iff.mpr
      ⟨k.text, Field.encoded_eq_valid_iff.mpr ⟨k.hasHalf_text, rfl⟩, ?_⟩
    rw [ActionKey.ofText?_eq_some_iff.mpr rfl]

/-- An action with a literal is read from the record of its fields. -/
theorem read_written (order : CapabilityOrder) {a : Action} (h : a.literal ≠ "") :
    read (a.written order) = .valid a := by
  refine readFields_eq_valid_iff.mpr ⟨?_, ?_, rfl, ?_, ?_, ?_, ?_, rfl⟩
  · rw [readDescription_of_no_entity rfl]
    rfl
  · exact Checked.under_eq_valid_iff.mpr (keyField_text_iff.mpr rfl)
  · have hpresent : present? (a.fields order) "literal" = some (.text a.literal) :=
      present?_eq_some_iff.mpr ⟨rfl, Value.isPresent_text.mpr h⟩
    rw [readLiteral, hpresent]
    rfl
  · exact Checked.under_eq_valid_iff.mpr (Field.texts_written a.aliases)
  · exact Checked.under_eq_valid_iff.mpr (Capabilities.read_names (order.mem_list a))
  · exact Checked.under_eq_valid_iff.mpr a.flags.flagsField_written

end Action

theorem Locator.read_written (l : Locator) : read l.written = .valid l := rfl

theorem Attribute.read_written (a : Attribute) : read a.written = .valid a := rfl

theorem Annotation.read_written (a : Annotation) : Annotation.read a.written = .valid a := rfl

/-! ## Literals -/

theorem Text.Utf8.decodeFrom_ne_nil {position : Nat} {b : UInt8} {rest : List UInt8}
    {cs : List Code} (h : decodeFrom position (b :: rest) = .ok cs) : cs ≠ [] := by
  rw [decodeFrom] at h
  cases hwidth : width? b with
  | none => exact absurd h (by simp [hwidth])
  | some width =>
      cases hdefect : defect? b (width - 1) rest with
      | some defect => exact absurd h (by simp [hwidth, hdefect])
      | none =>
          simp only [hwidth, hdefect] at h
          cases hrest : decodeFrom (position + width) (rest.drop (width - 1)) with
          | error fault => exact absurd h (by simp [hrest, Except.map])
          | ok ds =>
              rw [hrest] at h
              rw [← Except.ok.inj h]
              exact List.cons_ne_nil _ _

/-- Bytes that encode a text encode at least one character, if there are any. -/
theorem Text.Utf8.decode?_ne_empty {bytes : List UInt8} {s : Text} (h : decode? bytes = some s)
    (hne : bytes ≠ []) : s ≠ "" := by
  obtain ⟨b, rest, rfl⟩ := List.exists_cons_of_ne_nil hne
  rw [decode?, decode] at h
  split at h
  · next cs hcs =>
      obtain rfl := Option.some.inj h
      rw [ne_eq, Text.ofList_eq_empty_iff]
      exact decodeFrom_ne_nil hcs
  · exact absurd h (by simp)

/-- A value that counts is not read as the empty text. -/
theorem Field.text_ne_empty {v : Value} {s : Text} (h : Field.text v = .valid s)
    (hv : v.isPresent = true) : s ≠ "" := by
  cases v with
  | text t =>
      obtain rfl := Checked.valid.inj h
      exact Value.isPresent_text.mp hv
  | bytes b =>
      rw [Field.text] at h
      split at h
      · next t ht =>
          obtain rfl := Checked.valid.inj h
          exact Text.Utf8.decode?_ne_empty ht (by simpa [Value.isPresent] using hv)
      · exact absurd h (by simp [Checked.fault])
  | _ => exact absurd h (by simp [Field.text, Checked.fault])

theorem ActionKey.phrase_ne_empty (k : ActionKey) : k.phrase ≠ "" := by
  intro h
  exact k.words_phrase_ne_nil (by rw [h]; rfl)

/-- **A record whose key is a text gives an action with a literal**: its own, or the phrase of its
key. -/
theorem Action.literal_ne_empty {entries : Entries} {a : Action} {key : Text}
    (h : readFields entries = .valid a) (hkey : Value.get? entries "key" = some (.text key)) :
    a.literal ≠ "" := by
  obtain ⟨-, hkeyField, -, hliteral, -⟩ := readFields_eq_valid_iff.mp h
  rw [readLiteral] at hliteral
  cases hpresent : present? entries "literal" with
  | none =>
      simp only [hpresent, hkey, Checked.valid.injEq] at hliteral
      simp only [Entries.required, hkey, Checked.under_eq_valid_iff, keyField_text_iff] at hkeyField
      rw [← hliteral, hkeyField]
      exact a.key.phrase_ne_empty
  | some v =>
      obtain ⟨hv, hcounts⟩ := present?_eq_some_iff.mp hpresent
      simp only [hpresent, Entries.required, hv, Checked.under_eq_valid_iff] at hliteral
      exact Field.text_ne_empty hliteral hcounts

/-! ## Building what was written -/

/-- Meeting issues changes nothing about the result, if there is one. -/
theorem Loading.eq_of_result_through {α : Type} {mode : LoadMode} {a b : α} {issues : List Issue}
    (h : (through mode a issues).result = .ok b) : a = b := by
  cases mode with
  | strict =>
      rw [result_through_strict] at h
      cases issues with
      | nil => exact Except.ok.inj h
      | cons i rest => exact absurd h (by simp)
  | relaxed =>
      rw [result_through_relaxed] at h
      split at h
      · exact Except.ok.inj h
      · exact absurd h (by simp)

namespace Snapshot

variable (order : CapabilityOrder)

theorem listsOnly_document (s : Snapshot) : ListsOnly (s.document order) where
  names := by
    simp only [document, List.forall_mem_cons, List.not_mem_nil, false_imp_iff, implies_true,
      and_true]
    exact ⟨⟨"actions", by decide, rfl⟩, ⟨"locators", by decide, rfl⟩,
      ⟨"attributes", by decide, rfl⟩, ⟨"annotations", by decide, rfl⟩⟩
  lists := by
    simp only [document, List.forall_mem_cons, List.not_mem_nil, false_imp_iff, implies_true,
      and_true]
    exact ⟨⟨_, rfl⟩, ⟨_, rfl⟩, ⟨_, rfl⟩, ⟨_, rfl⟩⟩

theorem sectionsRead_document {s : Snapshot} (h : ∀ a ∈ s.actions, a.literal ≠ "") :
    SectionsRead (s.document order) s.actions s.locators s.attributes s.annotations where
  actions := map_read_map_written fun a ha => Action.read_written order (h a ha)
  locators := map_read_map_written fun l _ => l.read_written
  attributes := map_read_map_written fun a _ => a.read_written
  annotations := map_read_map_written fun a _ => a.read_written

theorem ofRecords_eq_self (s : Snapshot) :
    ofRecords s.actions s.locators s.attributes s.annotations = s := by
  have hkeep : deduplicate (·.key) s.actions = s.actions := deduplicate_eq_self s.distinct
  simp only [ofRecords, hkeep]

/-- The key of every action record that is a map is a text. -/
def TextKeys (entries : Entries) : Prop :=
  ∀ fields, .map fields ∈ records "actions" entries → ∃ key,
    Value.get? fields "key" = some (.text key)

/-- The actions of a catalog that was built from records with such keys have literals. -/
theorem TextKeys.literal_ne_empty {mode : LoadMode} {file : Option Text} {entries : Entries}
    {s : Snapshot} (hkeys : TextKeys entries) (hs : (build mode file entries).result = .ok s) :
    ∀ a ∈ s.actions, a.literal ≠ "" := by
  intro a ha
  rw [build_eq_through] at hs
  rw [← Loading.eq_of_result_through hs] at ha
  have haccepted : a ∈ accepted Action.read (records "actions" entries) := by
    rw [← sectionRecords_eq_accepted]
    exact mem_of_mem_deduplicate ha
  obtain ⟨v, hv, hread⟩ := mem_accepted.mp haccepted
  cases v with
  | map fields =>
      obtain ⟨key, hkey⟩ := hkeys fields hv
      exact Action.literal_ne_empty hread hkey
  | _ => exact absurd hread (by simp [Action.read, readRecord, Checked.fault])

theorem textKeys_document (s : Snapshot) : TextKeys (s.document order) := by
  intro fields hfields
  obtain ⟨a, -, hwritten⟩ := List.mem_map.mp hfields
  obtain rfl := Value.map.inj hwritten
  exact ⟨a.key.text, rfl⟩

/-- **A catalog comes back from its document exactly if its actions have literals**, in either mode
and without a warning. -/
theorem build_document_iff (mode : LoadMode) (file : Option Text) (s : Snapshot) :
    build mode file (s.document order) = .pure s ↔ ∀ a ∈ s.actions, a.literal ≠ "" := by
  constructor
  · intro hback
    exact (textKeys_document order s).literal_ne_empty (by rw [hback]; rfl)
  · intro hliterals
    have hbuild :=
      ((sectionsRead_document order hliterals).both_succeed (listsOnly_document order s) file
      (repeated?_eq_none_iff.mpr s.distinct)).1 mode
    rwa [ofRecords_eq_self] at hbuild

/-- Relaxed building has a result exactly if every warning can be written. -/
theorem exists_build_relaxed_iff (file : Option Text) (entries : Entries) :
    (∃ s, (build .relaxed file entries).result = .ok s) ↔
      ∀ i ∈ issues file entries, i.canWrite = true := by
  rw [build_eq_through, Loading.result_through_relaxed, ← List.all_eq_true]
  split
  · next hall => exact iff_of_true ⟨_, rfl⟩ hall
  · next hsome => exact iff_of_false (by simp) hsome

/-- **What building made of a catalog is built from its document again.** Let the key of every
action record that is a map be a text. Relaxed building gives a catalog unless a warning cannot be
written; every action of the catalog has a literal, and the document of the catalog, whatever the
order of the capabilities in it, gives the catalog in either mode and without a warning. -/
theorem build_document_of_build_relaxed (file file' : Option Text) (entries : Entries)
    (hkeys : TextKeys entries) :
    ((∃ s, (build .relaxed file entries).result = .ok s) ↔
      ∀ i ∈ issues file entries, i.canWrite = true) ∧
      ∀ s, (build .relaxed file entries).result = .ok s →
        (∀ order mode, build mode file' (s.document order) = .pure s) ∧
        ∀ a ∈ s.actions, a.literal ≠ "" := by
  refine ⟨exists_build_relaxed_iff file entries, fun s hs => ?_⟩
  have hliterals : ∀ a ∈ s.actions, a.literal ≠ "" := hkeys.literal_ne_empty hs
  exact ⟨fun order mode => (build_document_iff order mode file' s).mpr hliterals, hliterals⟩

/-- A catalog in which nearly everything is rewritten: no literal, an entity with flags, other names
that are null, a record that is rejected, an action that takes the place of an earlier one, and a
bare text. -/
def unevenCatalog : Entries :=
  [(.text "actions", .list
      [keyRecord "Drag", .null,
        .map [(.text "key", .text "DragTo"), (.text "aliases", .null), (.text "literal", .text ""),
          (.text "entity", .map
            [(.text "description", .text "Drags."),
              (.text "cliArguments", .map [(.text "slow", .null)]),
              (.text "properties", .map [(.text "argument", .null)])])],
        .map [(.text "key", .text "Drag"), (.text "source", .text "later"),
          (.text "capabilities", .tuple [.text "regularExpression", .text "argument"])]]),
    (.text "locators", .list [.text "css"])]

theorem build_document_of_unevenCatalog :
    TextKeys unevenCatalog ∧ ∃ s, (build .relaxed none unevenCatalog).result = .ok s ∧
      s.actions.length = 2 ∧ build .strict none (s.document .declared) = .pure s := by
  have hkeys : TextKeys unevenCatalog := by
    intro fields hfields
    rcases List.mem_cons.mp hfields with h | hfields
    · rw [Value.map.inj h]
      exact ⟨_, rfl⟩
    · rcases List.mem_cons.mp hfields with h | hfields
      · exact absurd h (by simp)
      · rcases List.mem_pair.mp hfields with h | h
        · rw [Value.map.inj h]
          exact ⟨_, rfl⟩
        · rw [Value.map.inj h]
          exact ⟨_, rfl⟩
  refine ⟨hkeys, _, rfl, rfl, ?_⟩
  exact ((build_document_of_build_relaxed none none unevenCatalog hkeys).2 _ rfl).1
    .declared .strict

end Snapshot

end Actionary
