import Mathlib.Data.List.Perm.Basic
import Actionary.Proofs.Distinct
import Actionary.Proofs.FlagCapability

/-!
# What the members of a record give to an action

The capabilities of an action follow from which members its record has, and not from what they hold:
a property of the entity grants its capability though it is false or nothing. The flags of the
entity stand in the order in which it gives them, whatever flags the record has of its own.

Apart from the flags nothing depends on an order. A record is the same map if its members are listed
in another order, and so are its entity and the properties of the entity; `Reordered` says so along
a path of names. What is read from a record, faults included, is then the same
(`readFields_eq_of_reordered`).
-/

namespace Actionary

/-! ## Members by name -/

namespace Value

theorem sameKey_text {k : Value} {name : Text} :
    sameKey k (.text name) = true ↔ k = .text name := by
  cases k with
  | text s => simp [sameKey, sameScalar]
  | _ => simp [sameKey, sameScalar, integer?]

theorem get?_cons (k v : Value) (rest : Entries) (name : Text) :
    get? ((k, v) :: rest) name = if sameKey k (.text name) then some v else get? rest name :=
  rfl

theorem get?_append (es fs : Entries) (name : Text) :
    get? (es ++ fs) name = (get? es name).or (get? fs name) := by
  induction es with
  | nil => rfl
  | cons e es ih =>
      rw [List.cons_append, get?_cons, get?_cons, ih]
      split
      · rfl
      · rfl

/-- A name is found exactly if some member has it, whatever the member holds. -/
theorem isSome_get?_iff {entries : Entries} {name : Text} :
    (get? entries name).isSome = true ↔ ∃ v, (.text name, v) ∈ entries := by
  induction entries with
  | nil => simp [get?, lookupIn]
  | cons e rest ih =>
      rw [get?_cons]
      split
      · next hkey =>
          rw [sameKey_text] at hkey
          exact ⟨fun _ => ⟨e.2, hkey ▸ List.mem_cons_self⟩, fun _ => rfl⟩
      · next hkey =>
          rw [sameKey_text] at hkey
          rw [ih]
          constructor
          · rintro ⟨v, hv⟩
            exact ⟨v, List.mem_cons_of_mem _ hv⟩
          · rintro ⟨v, hv⟩
            exact ⟨v, (List.mem_cons.mp hv).resolve_left fun heq =>
              hkey (congrArg Prod.fst heq).symm⟩

end Value

/-- No two members of a map have the same name. -/
def Entries.Distinct (entries : Entries) : Prop :=
  entries.Pairwise fun e f => ∀ name, e.1 = .text name → f.1 ≠ .text name

namespace Entries

/-- What a name gives is the member of that name. -/
theorem Distinct.get?_eq_some_iff {entries : Entries} (h : entries.Distinct) {name : Text}
    {v : Value} : Value.get? entries name = some v ↔ (.text name, v) ∈ entries := by
  induction entries with
  | nil => simp [Value.get?, Value.lookupIn]
  | cons e rest ih =>
      obtain ⟨hfirst, hrest⟩ := List.pairwise_cons.mp h
      rw [Value.get?_cons, List.mem_cons]
      split
      · next hkey =>
          rw [Value.sameKey_text] at hkey
          have hlater : (.text name, v) ∉ rest := fun hv => hfirst _ hv name hkey rfl
          rw [or_iff_left hlater, Option.some.injEq, Prod.ext_iff, hkey]
          simp [eq_comm]
      · next hkey =>
          rw [Value.sameKey_text] at hkey
          rw [ih hrest, or_iff_right fun heq => hkey (congrArg Prod.fst heq).symm]

theorem Distinct.perm {es fs : Entries} (h : es.Distinct) (hperm : es.Perm fs) : fs.Distinct := by
  refine (hperm.pairwise_iff ?_).mp h
  intro e f hef name hf he
  exact hef name he hf

/-- A map gives the same for a name, in whatever order its members are listed. -/
theorem Distinct.get?_eq_of_perm {es fs : Entries} (h : es.Distinct) (hperm : es.Perm fs)
    (name : Text) : Value.get? es name = Value.get? fs name := by
  apply Option.ext
  intro v
  rw [h.get?_eq_some_iff, (h.perm hperm).get?_eq_some_iff, hperm.mem_iff]

theorem key_of_mem_put {key v : Value} {entries : Entries} {f : Value × Value}
    (h : f ∈ Value.put key v entries) : f.1 = key ∨ ∃ e ∈ entries, e.1 = f.1 := by
  induction entries with
  | nil => exact Or.inl (congrArg Prod.fst (List.mem_singleton.mp h))
  | cons e rest ih =>
      rw [Value.put] at h
      split at h
      · rcases List.mem_cons.mp h with rfl | hrest
        · exact Or.inr ⟨e, List.mem_cons_self, rfl⟩
        · exact Or.inr ⟨f, List.mem_cons_of_mem _ hrest, rfl⟩
      · rcases List.mem_cons.mp h with rfl | hrest
        · exact Or.inr ⟨e, List.mem_cons_self, rfl⟩
        · refine (ih hrest).imp_right ?_
          rintro ⟨e', he', hkey⟩
          exact ⟨e', List.mem_cons_of_mem _ he', hkey⟩

theorem Distinct.put {entries : Entries} (h : entries.Distinct) (key v : Value) :
    Distinct (Value.put key v entries) := by
  induction entries with
  | nil => exact List.pairwise_singleton _ _
  | cons e rest ih =>
      obtain ⟨hfirst, hrest⟩ := List.pairwise_cons.mp h
      rw [Value.put]
      split
      · exact List.pairwise_cons.mpr ⟨hfirst, hrest⟩
      · next hother =>
          refine List.pairwise_cons.mpr ⟨fun f hf name he hname => ?_, ih hrest⟩
          rcases key_of_mem_put hf with hkey | ⟨e', he', hkey⟩
          · rw [hkey.symm.trans hname, Value.sameKey_text] at hother
            exact hother he
          · exact hfirst e' he' name he (hkey.trans hname)

/-- A map that is made from keys and values has each name once. -/
theorem distinct_entriesOf (pairs : List (Value × Value)) : Distinct (Value.entriesOf pairs) := by
  suffices h : ∀ (pairs : List (Value × Value)) (entries : Entries), entries.Distinct →
      Distinct (pairs.foldl (fun entries p => Value.put p.1 p.2 entries) entries) from
    h pairs [] List.Pairwise.nil
  intro pairs
  induction pairs with
  | nil => exact fun _ h => h
  | cons p ps ih => exact fun entries h => ih _ (h.put p.1 p.2)

end Entries

/-! ## Members in another order -/

/-- The same map with its members in another order. Of the members along a path of names, those that
are maps may have theirs in another order too. -/
inductive Reordered : List Text → Entries → Entries → Prop
  | turned {path : List Text} {es fs : Entries} : es.Distinct → es.Perm fs → Reordered path es fs
  | within {name : Text} {path : List Text} {before after es fs : Entries} : Reordered path es fs →
      Reordered (name :: path) (before ++ (.text name, .map es) :: after)
        (before ++ (.text name, .map fs) :: after)
  | trans {path : List Text} {es fs gs : Entries} : Reordered path es fs → Reordered path fs gs →
      Reordered path es gs

namespace Reordered

variable {path : List Text} {es fs : Entries}

/-- A name gives the same, or two maps of which one is the other reordered. -/
theorem get?_cases (h : Reordered path es fs) (name : Text) :
    Value.get? es name = Value.get? fs name ∨
      ∃ rest inner inner', path = name :: rest ∧ Value.get? es name = some (.map inner) ∧
        Value.get? fs name = some (.map inner') ∧ Reordered rest inner inner' := by
  induction h with
  | turned hdistinct hperm => exact Or.inl (hdistinct.get?_eq_of_perm hperm name)
  | @within step rest before after inner inner' hinner =>
      rw [Value.get?_append, Value.get?_append, Value.get?_cons, Value.get?_cons]
      cases Value.get? before name with
      | some v => exact Or.inl rfl
      | none =>
          split
          · next hkey =>
              obtain rfl := Value.text.inj (Value.sameKey_text.mp hkey)
              exact Or.inr ⟨rest, inner, inner', rfl, rfl, rfl, hinner⟩
          · exact Or.inl rfl
  | trans _ _ ih ih' =>
      rcases ih with heq | ⟨rest, inner, inner', hpath, hes, hfs, hinner⟩
      · rw [heq]
        exact ih'
      · rcases ih' with heq' | ⟨rest', middle, inner'', hpath', hfs', hgs, hinner'⟩
        · exact Or.inr ⟨rest, inner, inner', hpath, hes, heq' ▸ hfs, hinner⟩
        · obtain rfl : rest = rest' := (List.cons.inj (hpath.symm.trans hpath')).2
          obtain rfl : inner' = middle := Value.map.inj (Option.some.inj (hfs.symm.trans hfs'))
          exact Or.inr ⟨rest, inner, inner'', hpath, hes, hgs, hinner.trans hinner'⟩

/-- Names off the path give the same. -/
theorem get?_eq (h : Reordered path es fs) {name : Text} (hname : path.head? ≠ some name) :
    Value.get? es name = Value.get? fs name := by
  rcases h.get?_cases name with heq | ⟨rest, _, _, hpath, -⟩
  · exact heq
  · exact absurd (congrArg List.head? hpath) hname

end Reordered

namespace Action

variable {es fs : Entries}

theorem granted_eq_of_reordered (h : Reordered ["properties"] es fs) : granted es = granted fs := by
  have hflags : Value.get? es Capability.flags.name = Value.get? fs Capability.flags.name :=
    h.get?_eq (by decide)
  rcases h.get?_cases "properties" with heq | ⟨_, inner, inner', hpath, hes, hfs, hinner⟩
  · unfold granted hasMember
    rw [heq, hflags]
  · obtain rfl := (List.cons.inj hpath).2
    have hmember : ∀ name, Value.get? inner name = Value.get? inner' name :=
      fun name => hinner.get?_eq (by simp)
    unfold granted hasMember
    rw [hes, hfs, hflags]
    simp only [hmember]

/-- The entity of a reordered record is the same, or reordered itself. -/
theorem entity?_cases (h : Reordered ["entity", "properties"] es fs) :
    entity? es = entity? fs ∨
      ∃ inner inner', entity? es = some inner ∧ entity? fs = some inner' ∧
        Reordered ["properties"] inner inner' := by
  rcases h.get?_cases "entity" with heq | ⟨_, inner, inner', hpath, hes, hfs, hinner⟩
  · left
    simp only [entity?, heq]
  · obtain rfl := (List.cons.inj hpath).2
    exact Or.inr ⟨inner, inner', by rw [entity?, hes], by rw [entity?, hfs], hinner⟩

/-- What is taken from the entity is the same if it does not depend on the order there. -/
theorem bind_entity?_eq {α : Type} {f : Entries → Option α}
    (hf : ∀ {inner inner'}, Reordered ["properties"] inner inner' → f inner = f inner')
    (h : Reordered ["entity", "properties"] es fs) : (entity? es).bind f = (entity? fs).bind f := by
  rcases entity?_cases h with heq | ⟨inner, inner', hes, hfs, hinner⟩
  · rw [heq]
  · rw [hes, hfs]
    exact hf hinner

/-! Each reader looks at the record by names. -/

section Readers

variable {name : Text}

theorem required_eq {α : Type} {read : Value → Checked α}
    (h : Value.get? es name = Value.get? fs name) :
    Entries.required es name read = Entries.required fs name read := by
  rw [Entries.required, Entries.required, h]

theorem withDefault_eq {α : Type} {default : α} {read : Value → Checked α}
    (h : Value.get? es name = Value.get? fs name) :
    Entries.withDefault es name default read = Entries.withDefault fs name default read := by
  rw [Entries.withDefault, Entries.withDefault, h]

theorem present?_eq (h : Value.get? es name = Value.get? fs name) :
    present? es name = present? fs name := by
  rw [present?, present?, h]

variable (h : Reordered ["entity", "properties"] es fs)
include h

theorem get?_eq_of_ne_entity (hname : "entity" ≠ name) : Value.get? es name = Value.get? fs name :=
  h.get?_eq fun hhead => hname (Option.some.inj hhead)

theorem readDescription_eq_of_reordered : readDescription es = readDescription fs := by
  have hown : Value.get? es "description" = Value.get? fs "description" :=
    get?_eq_of_ne_entity h (by decide)
  have hentity : (entity? es).bind (present? · "description") =
      (entity? fs).bind (present? · "description") :=
    bind_entity?_eq (fun hinner => present?_eq (hinner.get?_eq (by decide))) h
  rw [readDescription, readDescription, present?_eq hown, hentity, withDefault_eq hown]

theorem readLiteral_eq_of_reordered : readLiteral es = readLiteral fs := by
  have hown : Value.get? es "literal" = Value.get? fs "literal" :=
    get?_eq_of_ne_entity h (by decide)
  rw [readLiteral, readLiteral, present?_eq hown, get?_eq_of_ne_entity h (by decide),
    required_eq hown]

theorem readAliases_eq_of_reordered : readAliases es = readAliases fs := by
  have hown : Value.get? es "aliases" = Value.get? fs "aliases" :=
    get?_eq_of_ne_entity h (by decide)
  rw [readAliases, readAliases, hown, withDefault_eq hown]

theorem readCapabilities_eq_of_reordered : readCapabilities es = readCapabilities fs := by
  have hown : Value.get? es "capabilities" = Value.get? fs "capabilities" :=
    get?_eq_of_ne_entity h (by decide)
  rw [readCapabilities, readCapabilities, present?_eq hown, withDefault_eq hown]
  rcases entity?_cases h with heq | ⟨inner, inner', hes, hfs, hinner⟩
  · rw [heq]
  · rw [hes, hfs]
    dsimp only
    rw [granted_eq_of_reordered hinner]

theorem readFlags_eq_of_reordered : readFlags es = readFlags fs := by
  have hentity : (entity? es).bind (Value.get? · Capability.flags.name) =
      (entity? fs).bind (Value.get? · Capability.flags.name) :=
    bind_entity?_eq (fun hinner => hinner.get?_eq (by decide)) h
  have hown : Value.get? es "cli_arguments" = Value.get? fs "cli_arguments" :=
    get?_eq_of_ne_entity h (by decide)
  rw [readFlags, readFlags, hentity, hown, withDefault_eq (get?_eq_of_ne_entity h (by decide))]

/-- **What is read from a record does not depend on the order of its members**, nor on that of the
members of its entity and of the properties of the entity. The faults of the record are the same
ones in the same order. -/
theorem readFields_eq_of_reordered : readFields es = readFields fs := by
  rw [readFields, readFields, readDescription_eq_of_reordered h, readLiteral_eq_of_reordered h,
    readAliases_eq_of_reordered h, readCapabilities_eq_of_reordered h, readFlags_eq_of_reordered h,
    required_eq (get?_eq_of_ne_entity h (by decide)),
      withDefault_eq (get?_eq_of_ne_entity h (by decide)),
    withDefault_eq (get?_eq_of_ne_entity h (by decide))]

end Readers

/-! ## The flags of the entity -/

/-- A value is a text, or bytes that encode it. -/
def IsText (v : Value) (s : Text) : Prop :=
  v = .text s ∨ ∃ b, v = .bytes b ∧ Text.Utf8.decode? b = some s

theorem isText_text {s t : Text} : IsText (.text s) t ↔ t = s := by
  constructor
  · rintro (h | ⟨b, hb, -⟩)
    · exact (Value.text.inj h).symm
    · exact absurd hb (by simp)
  · rintro rfl
    exact Or.inl rfl

theorem text_eq_valid_iff {v : Value} {s : Text} : Field.text v = .valid s ↔ IsText v s := by
  cases v with
  | text t => simp [Field.text, IsText]
  | bytes b =>
      rw [Field.text]
      cases hdecoded : Text.Utf8.decode? b with
      | none => simp [IsText, Checked.fault, hdecoded]
      | some t => simp [IsText, hdecoded]
  | _ => simp [Field.text, IsText, Checked.fault]

/-- A member of the flags of an entity gives a flag: its name, and its description or the empty text
for one that does not count. -/
def GivesFlag (member : Value × Value) (flag : Text × Text) : Prop :=
  IsText member.1 flag.1 ∧
    (member.2.isPresent = true ∧ IsText member.2 flag.2 ∨ member.2.isPresent = false ∧ flag.2 = "")

theorem textEntries_eq_valid_iff {members : Entries} {pairs : List (Text × Text)} :
    Field.textEntries members = .valid pairs ↔
      List.Forall₂ (fun e p => IsText e.1 p.1 ∧ IsText e.2 p.2) members pairs := by
  induction members generalizing pairs with
  | nil =>
      rw [Field.textEntries, List.forall₂_nil_left_iff, Checked.valid.injEq, eq_comm]
  | cons e es ih =>
      simp only [Field.textEntries, Field.textEntry, Checked.map_eq_valid_iff,
        Checked.both_eq_valid_iff, Checked.under_eq_valid_iff, text_eq_valid_iff, ih,
        List.forall₂_cons_left_iff, Prod.exists]
      constructor
      · rintro ⟨name, description, rest, ⟨hpair, hrest⟩, rfl⟩
        exact ⟨name, description, rest, hpair, hrest, rfl⟩
      · rintro ⟨name, description, rest, hpair, hrest, rfl⟩
        exact ⟨name, description, rest, ⟨hpair, hrest⟩, rfl⟩

theorem givesFlag_iff {member : Value × Value} {flag : Text × Text} :
    IsText member.1 flag.1 ∧ IsText (if member.2.isPresent then member.2 else .text "") flag.2 ↔
      GivesFlag member flag := by
  rw [GivesFlag]
  cases member.2.isPresent with
  | true => simp
  | false => simp [isText_text]

/-- The flags of an entity are those of the action, in their order. -/
theorem exists_givesFlag_of_readFlags {entries : Entries} {t : FlagTable}
    (h : readFlags entries = .valid t) {bag : Value} (hbag : entityFlags? entries = some bag) :
    ∃ members pairs, (bag = .null ∧ members = [] ∨ bag = .map members) ∧
      List.Forall₂ GivesFlag members pairs ∧ t = .ofList pairs := by
  rw [entityFlags?] at hbag
  simp only [readFlags, hbag, Checked.under_eq_valid_iff] at h
  obtain ⟨pairs, hpairs, rfl⟩ := Checked.map_eq_valid_iff.mp h
  cases bag with
  | null =>
      obtain rfl := Checked.valid.inj hpairs
      exact ⟨[], [], Or.inl ⟨rfl, rfl⟩, .nil, rfl⟩
  | map members =>
      have hread := textEntries_eq_valid_iff.mp hpairs
      simp only [List.forall₂_map_left_iff, givesFlag_iff] at hread
      exact ⟨members, pairs, Or.inr rfl, hread, rfl⟩
  | _ => exact absurd hpairs (by simp [describedFlags, Field.textMap, Checked.fault])

/-! ## The whole record -/

/-- A capability is granted by the entity of a record: a member of its properties, or of the entity
itself, has the name of the capability. -/
def Grants (entries : Entries) (c : Capability) : Prop :=
  ∃ entity, Value.get? entries "entity" = some (.map entity) ∧
    ((c ∈ [.argument, .element, .elementAttribute, .regex] ∧
        ∃ properties, Value.get? entity "properties" = some (.map properties) ∧
          ∃ v, (.text c.name, v) ∈ properties) ∨
      (c = .flags ∧ ∃ v, (.text c.name, v) ∈ entity))

theorem entity?_eq_some_iff {entries entity : Entries} :
    entity? entries = some entity ↔ Value.get? entries "entity" = some (.map entity) := by
  rw [entity?]
  cases Value.get? entries "entity" with
  | none => simp
  | some v => cases v <;> simp

theorem grants_iff {entries : Entries} {c : Capability} :
    (∃ entity, entity? entries = some entity ∧ (granted entity).has c = true) ↔
      Grants entries c := by
  simp only [Grants, entity?_eq_some_iff, has_granted, hasMember, Value.isSome_get?_iff]
  refine exists_congr fun entity => and_congr_right fun _ => or_congr_right ?_
  constructor
  · rintro ⟨rfl, hmember⟩
    exact ⟨rfl, hmember⟩
  · rintro ⟨rfl, hmember⟩
    exact ⟨rfl, hmember⟩

/-- **Capabilities follow from the names of members, flags from the entity, and nothing from an
order but that of the flags.** An action has the capabilities that its record declares and those
that members of the entity grant. Flags of the entity take the place of all others; they keep their
order, and of equal names the first gives the place and the last the description. And the members of
the record, of its entity and of the properties may be listed in any order. -/
theorem read_by_presence (entries : Entries) :
    (∀ a, read (.map entries) = .valid a →
      (∀ c, a.has c = true ↔ Declares entries c ∨ Grants entries c) ∧
        ∀ entity bag, Value.get? entries "entity" = some (.map entity) →
          Value.get? entity "cliArguments" = some bag →
          ∃ members pairs, (bag = .null ∧ members = [] ∨ bag = .map members) ∧
            List.Forall₂ GivesFlag members pairs ∧
            a.flags.entries.map (·.1) = (pairs.map (·.1)).eraseDups ∧
            ∀ name, a.flags.entries.find? (·.1 == name) = pairs.reverse.find? (·.1 == name)) ∧
      ∀ others, Reordered ["entity", "properties"] entries others →
        read (.map others) = read (.map entries) := by
  refine ⟨fun a h => ?_, fun others h => (readFields_eq_of_reordered h).symm⟩
  obtain ⟨-, -, -, -, -, hcapabilities, hflags, -⟩ := readFields_eq_valid_iff.mp h
  constructor
  · intro c
    rw [has, has_iff_of_readCapabilities hcapabilities, grants_iff, or_comm]
  · intro entity bag hentity hbag
    have hbag : entityFlags? entries = some bag := by
      rw [entityFlags?, entity?_eq_some_iff.mpr hentity]
      exact hbag
    obtain ⟨members, pairs, hmembers, hgives, htable⟩ := exists_givesFlag_of_readFlags hflags hbag
    refine ⟨members, pairs, hmembers, hgives, ?_, fun name => ?_⟩
    · rw [htable]
      exact keys_deduplicate pairs
    · have htest : ∀ i j : Text, (i == name) = true → (j == name) = true → i = j :=
        fun i j hi hj => (beq_iff_eq.mp hi).trans (beq_iff_eq.mp hj).symm
      rw [htable]
      exact find?_deduplicate htest pairs

/-- The properties of an entity, none of which holds anything. -/
def emptyProperties : Entries :=
  Value.entriesOf [(.text "argument", .bool false), (.text "regularExpression", .null)]

/-- The flags of an entity. Two of the names are one text. -/
def bareFlags : Entries :=
  Value.entriesOf [(.text "a", .null), (.text "b", .int 0), (.bytes [0x61], .text "x")]

/-- An entity with flags and properties. -/
def bareEntity : Entries :=
  Value.entriesOf [(.text "cliArguments", .map bareFlags),
    (.text "properties", .map emptyProperties)]

/-- A record with an entity, and with flags of its own that are no flags. -/
def bareRecord : Entries :=
  Value.entriesOf [(.text "key", .text "Press"), (.text "capabilities", .int 0),
    (.text "cliArguments", .text "none"), (.text "entity", .map bareEntity)]

/-- The same entity with its members and those of the properties turned round. -/
def turnedEntity : Entries :=
  [(.text "properties", .map emptyProperties.reverse), (.text "cliArguments", .map bareFlags)]

/-- The same record with its members and those of the entity turned round. -/
def turnedRecord : Entries :=
  [(.text "entity", .map turnedEntity), (.text "cliArguments", .text "none"),
    (.text "capabilities", .int 0), (.text "key", .text "Press")]

theorem reordered_bareRecord : Reordered ["entity", "properties"] bareRecord turnedRecord := by
  have hproperties : Reordered [] emptyProperties emptyProperties.reverse :=
    .turned (Entries.distinct_entriesOf _) (List.reverse_perm _).symm
  have hentity : Reordered ["properties"] bareEntity turnedEntity :=
    .trans (.turned (Entries.distinct_entriesOf _) (List.reverse_perm _).symm)
      (@Reordered.within "properties" [] [] _ _ _ hproperties)
  exact .trans (.turned (Entries.distinct_entriesOf _) (List.reverse_perm _).symm)
    (@Reordered.within "entity" ["properties"] [] _ _ _ hentity)

/-- The record grants three capabilities and declares none, and its entity gives two flags; turned
round, it is read as the same action. -/
theorem presence_in_bareRecord :
    ∃ a, read (.map bareRecord) = .valid a ∧ read (.map turnedRecord) = .valid a ∧
      a.capabilities.toList = [.flags, .argument, .regex] ∧
      a.flags.entries = ([("a", "x"), ("b", "")] : List (Text × Text)) ∧
      (∀ c, a.has c = true ↔ Grants bareRecord c) := by
  obtain ⟨hread, horder⟩ := read_by_presence bareRecord
  have hvalue : ((read (.map bareRecord)).value?.map fun a =>
      (a.capabilities.toList, a.flags.entries)) =
      some (([.flags, .argument, .regex] : List Capability),
        ([("a", "x"), ("b", "")] : List (Text × Text))) := by
    decide +kernel
  obtain ⟨a, ha, hparts⟩ := Option.map_eq_some_iff.mp hvalue
  obtain ⟨hcapabilities, hflags⟩ := Prod.mk.inj hparts
  have ha := Checked.value?_eq_some_iff.mp ha
  refine ⟨a, ha, (horder _ reordered_bareRecord).trans ha, hcapabilities, hflags, fun c => ?_⟩
  rw [(hread a ha).1 c, or_iff_right (not_declares_of_present? rfl c)]

end Action

end Actionary
