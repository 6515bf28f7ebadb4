import Actionary.Proofs.Checked
import Actionary.Proofs.RecordNumbers

/-!
# Strict building and direct reading

A catalog can be had from a map of sections in two ways. Strict building reads section after section
and ends at the first issue; direct reading checks the map as one record, collects the faults of all
sections, and compares the keys of the actions only if there are none. Where every entry of the map
is a section with a list, the two accept the same maps and give the same catalog: both come down to
`SectionsRead`, which says that each record of each section is read, and to keys that do not repeat.

Keys are compared by two scans, one that looks for the first repeated key and one that lists them
all. `repeatedFrom_eq_some` and `shadowed_append` tell what they do along actions with keys of their
own, so both stop at the same action.
-/

namespace Actionary

namespace Snapshot

variable {α : Type} {file : Option Text} {entries : Entries}

/-! ## Sections of lists -/

/-- Every entry of a map is a section of a catalog with a list of records. -/
structure ListsOnly (entries : Entries) : Prop where
  names : ∀ e ∈ entries, ∃ name ∈ sectionNames, e.1 = .text name
  lists : ∀ e ∈ entries, ∃ items, e.2 = .list items

theorem mem_of_lookupIn {key v : Value} (h : Value.lookupIn key entries = some v) :
    ∃ e ∈ entries, e.2 = v := by
  induction entries with
  | nil => exact absurd h (by simp [Value.lookupIn])
  | cons e rest ih =>
      rw [Value.lookupIn] at h
      split at h
      · exact ⟨e, List.mem_cons_self, Option.some.inj h⟩
      · obtain ⟨e', he', hv⟩ := ih h
        exact ⟨e', List.mem_cons_of_mem _ he', hv⟩

/-- A section is missing or a list. -/
theorem ListsOnly.get?_cases (h : ListsOnly entries) (name : Text) :
    Value.get? entries name = none ∨ ∃ items, Value.get? entries name = some (.list items) := by
  cases hv : Value.get? entries name with
  | none => exact Or.inl rfl
  | some v =>
      obtain ⟨e, he, rfl⟩ := mem_of_lookupIn hv
      obtain ⟨items, hitems⟩ := h.lists e he
      exact Or.inr ⟨items, by rw [hitems]⟩

theorem ListsOnly.unknownFields_eq_nil (h : ListsOnly entries) :
    entries.unknownFields sectionNames = [] := by
  rw [Entries.unknownFields, List.filterMap_eq_nil_iff]
  intro e he
  obtain ⟨name, hname, hkey⟩ := h.names e he
  rw [hkey]
  exact if_pos (List.contains_iff_mem.mpr hname)

theorem ListsOnly.hasHalfKey_eq_false (h : ListsOnly entries) : entries.hasHalfKey = false := by
  rw [Entries.hasHalfKey, List.any_eq_false]
  intro e he
  obtain ⟨name, hname, hkey⟩ := h.names e he
  have hnames : ∀ name ∈ sectionNames, name.hasHalf = false := by decide
  rw [hkey]
  exact Bool.not_eq_true _ ▸ hnames name hname

/-- The names of the sections are the only keys, so only the sections are left to read. -/
theorem ListsOnly.only_eq (h : ListsOnly entries) (fields : Checked α) :
    entries.only sectionNames fields = fields := by
  rw [Entries.only, h.hasHalfKey_eq_false, h.unknownFields_eq_nil]
  cases fields with
  | valid a => rfl
  | faulty first others => exact congrArg (Checked.faulty first) (List.append_nil others)

/-! ## Sections whose records are all read -/

/-- All records of a list are read exactly if none is rejected. -/
theorem map_read_eq_iff {name : Text} {read : Value → Checked α} {values : List Value} :
    ∀ {position : Nat} {items : List α}, values.map read = items.map .valid ↔
      rejected file name read position values = [] ∧ accepted read values = items := by
  induction values with
  | nil =>
      intro position items
      cases items with
      | nil => simp [rejected, accepted]
      | cons a rest => simp [accepted]
  | cons v vs ih =>
      intro position items
      cases hv : read v with
      | faulty first others =>
          cases items with
          | nil => simp [rejected, hv]
          | cons a rest => simp [rejected, hv]
      | valid a =>
          rw [accepted_cons_of_valid hv]
          cases items with
          | nil => simp [rejected, hv]
          | cons b rest =>
              simp only [rejected, hv, List.map_cons, List.cons.injEq, Checked.valid.injEq,
                @ih (position + 1) rest]
              tauto

theorem map_read_eq_map_valid {read : Value → Checked α} {values : List Value}
    (h : ∀ v ∈ values, (read v).value? ≠ none) :
    values.map read = (accepted read values).map .valid := by
  rw [accepted, List.map_filterMap, ← List.filterMap_eq_map]
  refine List.filterMap_congr fun v hv => ?_
  cases hread : read v with
  | valid a => simp [hread, Checked.value?]
  | faulty first others => exact absurd (by rw [hread]; rfl) (h v hv)

/-- A section as a field of a record, if it is missing or a list. -/
theorem ListsOnly.withDefault_eq_valid_iff (h : ListsOnly entries) {name : Text}
    {read : Value → Checked α} {items : List α} :
    entries.withDefault name [] (Field.sequence read) = .valid items ↔
      (records name entries).map read = items.map .valid := by
  rw [Entries.withDefault, records]
  rcases h.get?_cases name with hnone | ⟨values, hlist⟩
  · rw [hnone]
    cases items with
    | nil => simp
    | cons a rest => simp
  · rw [hlist]
    simp only [Checked.under_eq_valid_iff, Field.sequence, Field.members?,
      Checked.each_eq_valid_iff]

/-- A section as strict building meets it, if it is missing or a list. -/
theorem ListsOnly.sectionIssues_eq_nil_iff (h : ListsOnly entries) (file : Option Text)
    {name : Text} {read : Value → Checked α} {items : List α} :
    sectionIssues file name read entries = [] ∧ sectionRecords name read entries = items ↔
      (records name entries).map read = items.map .valid := by
  have hissues : sectionIssues file name read entries =
      rejected file name read 0 (records name entries) := by
    rw [sectionIssues, records]
    rcases h.get?_cases name with hnone | ⟨values, hlist⟩
    · rw [hnone]
      rfl
    · rw [hlist]
  rw [hissues, sectionRecords_eq_accepted]
  exact map_read_eq_iff.symm

/-- Every record of every section is read, and these are the entries that come of it. -/
structure SectionsRead (entries : Entries) (actions : List Action) (locators : List Locator)
    (attributes : List Attribute) (annotations : List Annotation) : Prop where
  actions : (records "actions" entries).map Action.read = actions.map .valid
  locators : (records "locators" entries).map Locator.read = locators.map .valid
  attributes : (records "attributes" entries).map Attribute.read = attributes.map .valid
  annotations : (records "annotations" entries).map Annotation.read = annotations.map .valid

variable {actions : List Action} {locators : List Locator} {attributes : List Attribute}
  {annotations : List Annotation}

theorem ListsOnly.readSections_eq_valid_iff (h : ListsOnly entries) :
    readSections entries = .valid (actions, locators, attributes, annotations) ↔
      SectionsRead entries actions locators attributes annotations := by
  simp only [readSections, Checked.both_eq_valid_iff, h.withDefault_eq_valid_iff]
  constructor
  · rintro ⟨hactions, hlocators, hattributes, hannotations⟩
    exact ⟨hactions, hlocators, hattributes, hannotations⟩
  · intro hread
    exact ⟨hread.actions, hread.locators, hread.attributes, hread.annotations⟩

/-- Where all records are read, direct reading has only the keys of the actions left to compare. -/
theorem SectionsRead.read_eq_join
    (hread : SectionsRead entries actions locators attributes annotations) (h : ListsOnly entries) :
    read (.map entries) = join actions locators attributes annotations := by
  rw [read, readRecord, h.only_eq, h.readSections_eq_valid_iff.mpr hread]
  rfl

/-- Where all records are read, strict building too has only these keys left to compare. -/
theorem SectionsRead.build_eq_through
    (hread : SectionsRead entries actions locators attributes annotations) (h : ListsOnly entries)
    (mode : LoadMode) :
    build mode file entries =
      .through mode (ofRecords actions locators attributes annotations)
        (shadowed file [] 0 actions) := by
  obtain ⟨hactions, hactions'⟩ := (h.sectionIssues_eq_nil_iff file).mpr hread.actions
  obtain ⟨hlocators, hlocators'⟩ := (h.sectionIssues_eq_nil_iff file).mpr hread.locators
  obtain ⟨hattributes, hattributes'⟩ := (h.sectionIssues_eq_nil_iff file).mpr hread.attributes
  obtain ⟨hannotations, hannotations'⟩ := (h.sectionIssues_eq_nil_iff file).mpr hread.annotations
  rw [Snapshot.build_eq_through, contents, issues, hactions, hlocators, hattributes, hannotations,
    hactions', hlocators', hattributes', hannotations']
  rfl

/-- Strict building has a result only if all records are read. -/
theorem ListsOnly.sectionsRead_of_build (h : ListsOnly entries) {s : Snapshot}
    (hs : (build .strict file entries).result = .ok s) :
    ∃ actions locators attributes annotations,
      SectionsRead entries actions locators attributes annotations := by
  rw [build_eq_through, Loading.result_through_strict] at hs
  cases hissues : issues file entries with
  | cons i rest => exact absurd hs (by simp [hissues])
  | nil =>
      simp only [issues, List.append_eq_nil_iff] at hissues
      obtain ⟨hactions, hlocators, hattributes, hannotations, -⟩ := hissues
      exact ⟨_, _, _, _, (h.sectionIssues_eq_nil_iff file).mp ⟨hactions, rfl⟩,
        (h.sectionIssues_eq_nil_iff file).mp ⟨hlocators, rfl⟩,
        (h.sectionIssues_eq_nil_iff file).mp ⟨hattributes, rfl⟩,
        (h.sectionIssues_eq_nil_iff file).mp ⟨hannotations, rfl⟩⟩

/-! ## The first repeated key -/

/-- Keys that are distinct and new are passed over by the scan for a repeated key. -/
theorem repeatedFrom_eq_none :
    ∀ {seen : List ActionKey}, (actions.map (·.key)).Nodup → (∀ k ∈ actions.map (·.key), k ∉ seen) →
      repeatedFrom seen actions = none := by
  induction actions with
  | nil => exact fun _ _ => rfl
  | cons a rest ih =>
      intro seen hnodup hfresh
      rw [List.map_cons, List.nodup_cons] at hnodup
      rw [List.map_cons, List.forall_mem_cons] at hfresh
      rw [repeatedFrom, if_neg hfresh.1]
      refine ih hnodup.2 fun k hk hmem => ?_
      rcases List.mem_cons.mp hmem with rfl | hseen
      · exact hnodup.1 hk
      · exact hfresh.2 k hk hseen

theorem repeated?_eq_none_iff : repeated? actions = none ↔ (actions.map (·.key)).Nodup :=
  ⟨fun h => (nodup_of_repeatedFrom_eq_none h).1,
    fun h => repeatedFrom_eq_none h fun _ _ => List.not_mem_nil⟩

/-- What the scan finds stands behind actions with keys of their own, and has the key of one of
these or one that was seen before. -/
theorem repeatedFrom_eq_some {a : Action} :
    ∀ {seen : List ActionKey}, repeatedFrom seen actions = some a →
      ∃ before after, actions = before ++ a :: after ∧ repeatedFrom seen before = none ∧
        (a.key ∈ before.map (·.key) ∨ a.key ∈ seen) := by
  induction actions with
  | nil => exact fun h => absurd h (by simp [repeatedFrom])
  | cons b rest ih =>
      intro seen h
      rw [repeatedFrom] at h
      split at h
      · next hseen =>
          obtain rfl := Option.some.inj h
          exact ⟨[], rest, rfl, rfl, Or.inr hseen⟩
      · next hnew =>
          obtain ⟨before, after, rfl, hbefore, hkey⟩ := ih h
          refine ⟨b :: before, after, rfl, by rw [repeatedFrom, if_neg hnew, hbefore], ?_⟩
          rw [List.map_cons, List.mem_cons]
          rcases hkey with hkey | hkey
          · exact Or.inl (Or.inr hkey)
          · exact (List.mem_cons.mp hkey).imp Or.inl id

/-- The scan that lists repeated keys passes over actions with keys of their own. -/
theorem shadowed_append {before : List Action} (rest : List Action) :
    ∀ {seen : List ActionKey} {position : Nat}, repeatedFrom seen before = none →
      shadowed file seen position (before ++ rest) =
        shadowed file ((before.map (·.key)).reverse ++ seen) (position + before.length) rest := by
  induction before with
  | nil => exact fun _ => rfl
  | cons b before ih =>
      intro seen position h
      rw [repeatedFrom] at h
      split at h
      · exact absurd h (by simp)
      · next hnew =>
          rw [List.cons_append, shadowed, if_neg hnew, List.nil_append, ih h, List.map_cons,
            List.reverse_cons, List.append_assoc, List.singleton_append, List.length_cons,
            Nat.add_right_comm, Nat.add_assoc]

theorem shadowed_eq_nil (h : repeatedFrom [] actions = none) : shadowed file [] 0 actions = [] := by
  have hpass : shadowed file [] 0 (actions ++ []) = _ := shadowed_append [] h
  rwa [List.append_nil] at hpass

/-- The two scans of the keys come to the same first action. -/
theorem head?_shadowed_of_repeated? (file : Option Text) {a : Action}
    (h : repeated? actions = some a) :
    ∃ before after, actions = before ++ a :: after ∧ (before.map (·.key)).Nodup ∧
      a.key ∈ before.map (·.key) ∧
      (shadowed file [] 0 actions).head? = some (.shadowing a.key.text before.length file) := by
  obtain ⟨before, after, rfl, hbefore, hkey⟩ := repeatedFrom_eq_some h
  have hkey : a.key ∈ before.map (·.key) := hkey.resolve_right List.not_mem_nil
  refine ⟨before, after, rfl, repeated?_eq_none_iff.mp hbefore, hkey, ?_⟩
  rw [shadowed_append _ hbefore, shadowed, List.append_nil, if_pos (List.mem_reverse.mpr hkey),
    Nat.zero_add]
  rfl

/-! ## Records that repeat a key -/

/-- No record of any section is rejected. -/
def AllValid (entries : Entries) : Prop :=
  ∀ name, ∀ v ∈ records name entries, ¬ Faulty name v

/-- The first record of an action whose key an earlier record has. -/
structure FirstShadows (entries : Entries) (index : Nat) (a : Action) : Prop where
  /-- The record is that of the action, and an earlier record has its key. -/
  shadows : ShadowsAt entries index a
  /-- No record before it repeats a key. -/
  first : ∀ earlier < index, ∀ b, ¬ ShadowsAt entries earlier b

theorem AllValid.sectionsRead (h : AllValid entries) :
    ∃ actions locators attributes annotations,
      SectionsRead entries actions locators attributes annotations :=
  ⟨_, _, _, _, map_read_eq_map_valid fun v hv hnone => h "actions" v hv (.action hnone),
    map_read_eq_map_valid fun v hv hnone => h "locators" v hv (.locator hnone),
    map_read_eq_map_valid fun v hv hnone => h "attributes" v hv (.elementAttribute hnone),
    map_read_eq_map_valid fun v hv hnone => h "annotations" v hv (.annotationEntry hnone)⟩

/-- Where all records are read, an action shadows another by its place among the actions. -/
theorem SectionsRead.shadowsAt_iff
    (hread : SectionsRead entries actions locators attributes annotations) {index : Nat}
    {a : Action} :
    ShadowsAt entries index a ↔
      actions[index]? = some a ∧ a.key ∈ (actions.take index).map (·.key) := by
  have hplace : (∃ v, (records "actions" entries)[index]? = some v ∧ Action.read v = .valid a) ↔
      actions[index]? = some a := by
    have hmap := congrArg (fun l => l[index]?) hread.actions
    simp only [List.getElem?_map] at hmap
    rw [← Option.map_eq_some_iff, hmap, Option.map_eq_some_iff]
    simp
  have hbefore : (∃ earlier ∈ (records "actions" entries).take index, ∃ b,
      Action.read earlier = .valid b ∧ b.key = a.key) ↔
        a.key ∈ (actions.take index).map (·.key) := by
    have hmap := congrArg (List.take index) hread.actions
    rw [← List.map_take, ← List.map_take] at hmap
    have hmem : ∀ b,
        (∃ earlier ∈ (records "actions" entries).take index, Action.read earlier = .valid b) ↔
          b ∈ actions.take index := by
      intro b
      rw [← List.mem_map, hmap, List.mem_map]
      simp only [Checked.valid.injEq, exists_eq_right]
    rw [List.mem_map]
    simp only [← hmem]
    tauto
  rw [ShadowsAt, hplace, hbefore]

/-- An action whose key stands before it makes the keys repeat. -/
theorem not_nodup_keys {place : Nat} {a : Action} (ha : actions[place]? = some a)
    (hseen : a.key ∈ (actions.take place).map (·.key)) : ¬ (actions.map (·.key)).Nodup := by
  intro hnodup
  have hcut : actions.take (place + 1) = actions.take place ++ [a] := by
    rw [List.take_add_one, ha]
    rfl
  have hprefix : ((actions.take (place + 1)).map (·.key)).Nodup :=
    hnodup.sublist ((List.take_sublist _ _).map _)
  rw [hcut, List.map_append, List.nodup_append] at hprefix
  exact hprefix.2.2 _ hseen _ (List.mem_singleton_self _) rfl

theorem SectionsRead.firstShadows
    (hread : SectionsRead entries actions locators attributes annotations)
    {before after : List Action}
    {a : Action} (hactions : actions = before ++ a :: after) (hnodup : (before.map (·.key)).Nodup)
    (hkey : a.key ∈ before.map (·.key)) : FirstShadows entries before.length a where
  shadows := by
    rw [hread.shadowsAt_iff, hactions]
    exact ⟨by simp, by simpa using hkey⟩
  first earlier hlt b hshadows := by
    rw [hread.shadowsAt_iff, hactions, List.getElem?_append_left hlt,
      List.take_append_of_le_length (Nat.le_of_lt hlt)] at hshadows
    exact not_nodup_keys hshadows.1 hshadows.2 hnodup

/-! ## Agreement -/

/-- Where all records are read and no key repeats, building in either mode and direct reading give
the catalog of the records. -/
theorem SectionsRead.both_succeed
    (hread : SectionsRead entries actions locators attributes annotations) (h : ListsOnly entries)
    (file : Option Text) (hnone : repeated? actions = none) :
    (∀ mode, build mode file entries = .pure (ofRecords actions locators attributes annotations)) ∧
      read (.map entries) = .valid (ofRecords actions locators attributes annotations) := by
  constructor
  · intro mode
    rw [hread.build_eq_through h, shadowed_eq_nil hnone]
    rfl
  · have hkeep : deduplicate (·.key) actions = actions :=
      deduplicate_eq_self (repeated?_eq_none_iff.mp hnone)
    rw [hread.read_eq_join h, join]
    split
    · next a ha => exact absurd (hnone.symm.trans ha) (by simp)
    · simp only [ofRecords, hkeep]

/-- Where all records are read and a key repeats, strict building and direct reading fail at the
same record. -/
theorem SectionsRead.both_fail
    (hread : SectionsRead entries actions locators attributes annotations) (h : ListsOnly entries)
    (file : Option Text) {a : Action} (ha : repeated? actions = some a) :
    ∃ index, FirstShadows entries index a ∧
      build .strict file entries = .fail (.shadowing a.key.text index file) ∧
      read (.map entries) = .fault (.repeatedKey a.key.text) := by
  obtain ⟨before, after, hactions, hnodup, hkey, hhead⟩ := head?_shadowed_of_repeated? file ha
  refine ⟨before.length, hread.firstShadows hactions hnodup hkey, ?_, ?_⟩
  · obtain ⟨rest, hrest⟩ := List.head?_eq_some_iff.mp hhead
    rw [hread.build_eq_through h, hrest]
    rfl
  · rw [hread.read_eq_join h, join]
    split
    · next b hb => rw [Option.some.inj (hb.symm.trans ha)]
    · next hnone => exact absurd (hnone.symm.trans ha) (by simp)

/-- Where all records are read, strict building and direct reading have the same results. -/
theorem SectionsRead.build_strict_ok_iff
    (hread : SectionsRead entries actions locators attributes annotations) (h : ListsOnly entries)
    (file : Option Text) (s : Snapshot) :
    (build .strict file entries).result = .ok s ↔ read (.map entries) = .valid s := by
  cases hrepeated : repeated? actions with
  | none =>
      obtain ⟨hbuild, hvalid⟩ := hread.both_succeed h file hrepeated
      rw [hbuild, hvalid]
      simp [Loading.pure]
  | some a =>
      obtain ⟨index, -, hbuild, hfault⟩ := hread.both_fail h file hrepeated
      rw [hbuild, hfault]
      simp [Loading.fail, Checked.fault]

theorem ListsOnly.sectionsRead_of_read (h : ListsOnly entries) {s : Snapshot}
    (hs : read (.map entries) = .valid s) :
    ∃ actions locators attributes annotations,
      SectionsRead entries actions locators attributes annotations := by
  obtain ⟨⟨actions, locators, attributes, annotations⟩, hboth, -⟩ := Checked.bind_eq_valid_iff.mp hs
  rw [h.only_eq] at hboth
  exact ⟨_, _, _, _, h.readSections_eq_valid_iff.mp hboth⟩

/-- **Strict building and direct reading accept the same catalogs.** For every map of section names
to lists they give the same catalog or both fail; and where every record is valid but a key repeats,
both name the key of the first record whose key came up before. -/
theorem build_strict_agrees_with_read (file : Option Text) (entries : Entries)
    (h : ListsOnly entries) :
    (∀ s, (build .strict file entries).result = .ok s ↔ read (.map entries) = .valid s) ∧
      (AllValid entries → (∃ index a, ShadowsAt entries index a) →
        ∃ index a, FirstShadows entries index a ∧
          build .strict file entries = .fail (.shadowing a.key.text index file) ∧
          read (.map entries) = .fault (.repeatedKey a.key.text)) := by
  constructor
  · intro s
    -- If either succeeds, all records are read.
    constructor
    · intro hs
      obtain ⟨_, _, _, _, hread⟩ := h.sectionsRead_of_build hs
      exact (hread.build_strict_ok_iff h file s).mp hs
    · intro hs
      obtain ⟨_, _, _, _, hread⟩ := h.sectionsRead_of_read hs
      exact (hread.build_strict_ok_iff h file s).mpr hs
  · rintro hvalid ⟨place, b, hb⟩
    obtain ⟨actions, _, _, _, hread⟩ := hvalid.sectionsRead
    cases hrepeated : repeated? actions with
    | none =>
        obtain ⟨hplace, hseen⟩ := hread.shadowsAt_iff.mp hb
        exact absurd (repeated?_eq_none_iff.mp hrepeated) (not_nodup_keys hplace hseen)
    | some a =>
        obtain ⟨index, houtcome⟩ := hread.both_fail h file hrepeated
        exact ⟨index, a, houtcome⟩

/-- A catalog whose actions have the given keys, with one locator. -/
def keysAndLocator (keys : List Text) : Entries :=
  [(.text "locators", .list [.text "css"]), (.text "actions", .list (keys.map keyRecord))]

theorem listsOnly_keysAndLocator (keys : List Text) : ListsOnly (keysAndLocator keys) where
  names := by
    intro e he
    rcases List.mem_pair.mp he with rfl | rfl
    · exact ⟨"locators", by decide, rfl⟩
    · exact ⟨"actions", by decide, rfl⟩
  lists := by
    intro e he
    rcases List.mem_pair.mp he with rfl | rfl
    · exact ⟨_, rfl⟩
    · exact ⟨_, rfl⟩

/-- A catalog that both accept, and one that both refuse: its third record repeats a key, and so
does the fourth. -/
theorem build_strict_agrees_on_repeated_keys :
    (∃ s, (build .strict none (keysAndLocator ["Press", "Type"])).result = .ok s ∧
        read (.map (keysAndLocator ["Press", "Type"])) = .valid s) ∧
      AllValid (keysAndLocator ["Press", "Type", "Type", "Press"]) ∧
      ∃ index a, FirstShadows (keysAndLocator ["Press", "Type", "Type", "Press"]) index a ∧
        build .strict none (keysAndLocator ["Press", "Type", "Type", "Press"]) =
          .fail (.shadowing a.key.text index none) ∧
        read (.map (keysAndLocator ["Press", "Type", "Type", "Press"])) =
          .fault (.repeatedKey a.key.text) := by
  have hvalid : AllValid (keysAndLocator ["Press", "Type", "Type", "Press"]) := by
    intro name v hv hfaulty
    cases hfaulty with
    | action hnone =>
        have hread : ∀ v ∈ ["Press", "Type", "Type", "Press"].map keyRecord,
            (Action.read v).value? ≠ none :=
          List.forall_mem_map.mpr (by decide)
        exact hread v hv hnone
    | locator hnone =>
        obtain rfl : v = .text "css" := List.mem_singleton.mp hv
        exact absurd hnone (by decide)
    | elementAttribute _ => exact absurd hv List.not_mem_nil
    | annotationEntry _ => exact absurd hv List.not_mem_nil
  refine ⟨⟨_, rfl, ?_⟩, hvalid, ?_⟩
  · exact ((build_strict_agrees_with_read none _ (listsOnly_keysAndLocator _)).1 _).mp rfl
  · refine (build_strict_agrees_with_read none _ (listsOnly_keysAndLocator _)).2 hvalid ⟨2, ?_⟩
    exact ⟨_, ⟨_, rfl, rfl⟩, keyRecord "Type",
      List.mem_cons_of_mem _ List.mem_cons_self, _, rfl, rfl⟩

end Snapshot

end Actionary
