import Actionary.Catalog.Action

/-!
# When a check succeeds

A check that is joined from others succeeds exactly if all of them do, and its value is made from
theirs. One equivalence per way of joining takes a successful check apart, down to the fields of a
record.
-/

namespace Actionary

namespace Checked

variable {α β : Type}

theorem value?_eq_some_iff {x : Checked α} {a : α} : x.value? = some a ↔ x = .valid a := by
  cases x with
  | valid b => simp [value?]
  | faulty first others => simp [value?]

@[simp] theorem map_eq_valid_iff {f : α → β} {x : Checked α} {b : β} :
    x.map f = .valid b ↔ ∃ a, x = .valid a ∧ f a = b := by
  cases x with
  | valid a => simp [map]
  | faulty first others => simp [map]

@[simp] theorem under_eq_valid_iff {step : Step} {x : Checked α} {a : α} :
    x.under step = .valid a ↔ x = .valid a := by
  cases x with
  | valid b => simp [under]
  | faulty first others => simp [under]

@[simp] theorem both_eq_valid_iff {x : Checked α} {y : Checked β} {p : α × β} :
    x.both y = .valid p ↔ x = .valid p.1 ∧ y = .valid p.2 := by
  cases x with
  | valid a =>
      cases y with
      | valid b => simp [both, Prod.ext_iff]
      | faulty first others => simp [both]
  | faulty first others => simp [both]

@[simp] theorem bind_eq_valid_iff {x : Checked α} {f : α → Checked β} {b : β} :
    x.bind f = .valid b ↔ ∃ a, x = .valid a ∧ f a = .valid b := by
  cases x with
  | valid a => simp [bind]
  | faulty first others => simp [bind]

@[simp] theorem also_eq_valid_iff {x : Checked α} {more : List Fault} {a : α} :
    x.also more = .valid a ↔ x = .valid a ∧ more = [] := by
  cases x with
  | valid b =>
      cases more with
      | nil => simp [also]
      | cons g gs => simp [also]
  | faulty first others => simp [also]

@[simp] theorem apply_eq_valid_iff {f : Checked (α → β)} {x : Checked α} {b : β} :
    f.apply x = .valid b ↔ ∃ g a, f = .valid g ∧ x = .valid a ∧ g a = b := by
  simp only [apply, map_eq_valid_iff, both_eq_valid_iff, Prod.exists, and_assoc]

theorem eachFrom_eq_valid_iff {check : α → Checked β} {xs : List α} :
    ∀ {n : Nat} {ys : List β}, eachFrom check n xs = .valid ys ↔ xs.map check = ys.map .valid := by
  induction xs with
  | nil =>
      intro n ys
      rw [eachFrom, List.map_nil, eq_comm, eq_comm (a := []), List.map_eq_nil_iff, valid.injEq]
  | cons x xs ih =>
      intro n ys
      simp only [eachFrom, map_eq_valid_iff, both_eq_valid_iff, under_eq_valid_iff, ih]
      cases ys with
      | nil => simp
      | cons y rest =>
          simp only [List.map_cons, List.cons.injEq, Prod.exists]
          constructor
          · rintro ⟨_, _, hboth, rfl, rfl⟩
            exact hboth
          · exact fun hboth => ⟨y, rest, hboth, rfl, rfl⟩

/-- The members of a sequence are read exactly if each of them is. -/
theorem each_eq_valid_iff {check : α → Checked β} {xs : List α} {ys : List β} :
    each check xs = .valid ys ↔ xs.map check = ys.map .valid :=
  eachFrom_eq_valid_iff

end Checked

/-- An action is read exactly if each of its fields is. -/
theorem Action.readFields_eq_valid_iff {entries : Entries} {a : Action} :
    readFields entries = .valid a ↔
      readDescription entries = .valid a.description ∧
        entries.required "key" keyField = .valid a.key ∧
        entries.withDefault "verb" defaultVerb Field.text = .valid a.verb ∧
        readLiteral entries = .valid a.literal ∧ readAliases entries = .valid a.aliases ∧
        readCapabilities entries = .valid a.capabilities ∧ readFlags entries = .valid a.flags ∧
        entries.withDefault "source" ("" : Text) Field.text = .valid a.source := by
  constructor
  · intro h
    simp only [readFields, Checked.apply_eq_valid_iff] at h
    obtain ⟨_, _, ⟨_, _, ⟨_, _, ⟨_, _, ⟨_, _, ⟨_, _, ⟨_, _, ⟨_, _, hmk, hdescription, rfl⟩,
      hkey, rfl⟩, hverb, rfl⟩, hliteral, rfl⟩, haliases, rfl⟩, hcapabilities, rfl⟩, hflags, rfl⟩,
      hsource, rfl⟩ := h
    obtain rfl := Checked.valid.inj hmk
    exact ⟨hdescription, hkey, hverb, hliteral, haliases, hcapabilities, hflags, hsource⟩
  · rintro ⟨hdescription, hkey, hverb, hliteral, haliases, hcapabilities, hflags, hsource⟩
    rw [readFields, hdescription, hkey, hverb, hliteral, haliases, hcapabilities, hflags, hsource]
    rfl

end Actionary
