import Actionary.Catalog.Action
import Actionary.Catalog.Entry

/-!
# Catalog snapshots

A catalog as it is used: actions, locators, attributes and annotations. No two actions have one key.
A snapshot does not change; a changed catalog is another snapshot.
-/

namespace Actionary

/-- The order of texts by their code points. -/
def textBefore (a b : Text) : Bool :=
  a ≤ b

/-- Texts in ascending order, repeats kept. -/
def sorted (texts : List Text) : List Text :=
  texts.mergeSort textBefore

structure Snapshot where
  actions : List Action
  locators : List Locator
  attributes : List Attribute
  annotations : List Annotation
  distinct : (actions.map (·.key)).Nodup
deriving DecidableEq

namespace Snapshot

def empty : Snapshot :=
  ⟨[], [], [], [], List.nodup_nil⟩

def find? (s : Snapshot) (key : Text) : Option Action :=
  s.actions.find? (·.key.text == key)

def locatorLiterals (s : Snapshot) : List Text :=
  sorted (s.locators.map (·.literal))

def attributeKeys (s : Snapshot) : List Text :=
  sorted (s.attributes.map (·.key))

def annotationKeys (s : Snapshot) : List Text :=
  (s.annotations.map (·.key)).eraseDups

def repeatedFrom (seen : List ActionKey) : List Action → Option Action
  | [] => none
  | a :: rest => if a.key ∈ seen then some a else repeatedFrom (a.key :: seen) rest

/-- The first action whose key an earlier one has. -/
def repeated? (actions : List Action) : Option Action :=
  repeatedFrom [] actions

theorem nodup_of_repeatedFrom_eq_none {seen : List ActionKey} :
    ∀ {actions : List Action}, repeatedFrom seen actions = none →
      (actions.map (·.key)).Nodup ∧ ∀ k ∈ actions.map (·.key), k ∉ seen
  | [], _ => by simp
  | a :: rest, h => by
    by_cases hs : a.key ∈ seen
    · simp [repeatedFrom, hs] at h
    · simp only [repeatedFrom, hs, ↓reduceIte] at h
      have ⟨hn, hd⟩ := nodup_of_repeatedFrom_eq_none h
      refine ⟨List.nodup_cons.2 ⟨fun m => hd _ m (List.mem_cons_self ..), hn⟩, fun k hk => ?_⟩
      cases List.mem_cons.1 hk with
      | inl e => exact e ▸ hs
      | inr m => exact fun hm => hd k m (List.mem_cons_of_mem _ hm)

/-- Joins checked entries into a catalog, unless an action key occurs twice. -/
def join (actions : List Action) (locators : List Locator) (attributes : List Attribute)
    (annotations : List Annotation) : Checked Snapshot :=
  match h : repeated? actions with
  | some a => .fault (.repeatedKey a.key.text)
  | none =>
    .valid ⟨actions, locators, attributes, annotations, (nodup_of_repeatedFrom_eq_none h).1⟩

def sectionNames : List Text :=
  ["actions", "locators", "attributes", "annotations"]

def readSections (entries : Entries) :
    Checked (List Action × List Locator × List Attribute × List Annotation) :=
  (entries.withDefault "actions" [] (Field.sequence Action.read)).both <|
    (entries.withDefault "locators" [] (Field.sequence Locator.read)).both <|
      (entries.withDefault "attributes" [] (Field.sequence Attribute.read)).both <|
        entries.withDefault "annotations" [] (Field.sequence Annotation.read)

/-- Reads a catalog from a record. The keys of its actions are compared only if all else is right.
-/
def read (v : Value) : Checked Snapshot :=
  readRecord .snapshot
    (fun entries =>
      (entries.only sectionNames (readSections entries)).bind fun p =>
        join p.1 p.2.1 p.2.2.1 p.2.2.2)
    v

end Snapshot

end Actionary
