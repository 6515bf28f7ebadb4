import Actionary.Catalog.Loading
import Actionary.Catalog.Snapshot

/-!
# Catalogs from documents

Reads a catalog from a map of sections. Records are read one by one. In relaxed mode a record with
faults is left out, and an action with the key of an earlier one takes its place.
-/

namespace Actionary

namespace Snapshot

/-- Reads the records of a section, of which `position` were read before. -/
def readRecords (mode : LoadMode) (file : Option Text) (name : Text)
    (read : Value → Checked α) (position : Nat) : List Value → Loading (List α)
  | [] => .pure []
  | v :: vs =>
    match read v with
    | .valid a =>
      (readRecords mode file name read (position + 1) vs).bind fun rest => .pure (a :: rest)
    | .faulty first others =>
      (Loading.emit mode (.badRecord ⟨first, others, v, file, some name, some position⟩)).bind
        fun _ => readRecords mode file name read (position + 1) vs

/-- Reads a section: a sequence of records, or nothing. -/
def readSection (mode : LoadMode) (file : Option Text) (name : Text) (read : Value → Checked α)
    (entries : Entries) : Loading (List α) :=
  match Value.get? entries name with
  | none | some .null => .pure []
  | some (.list records) => readRecords mode file name read 0 records
  | some _ => (Loading.emit mode (.sectionShape name file)).bind fun _ => .pure []

/-- Meets every action that has the key of an earlier one, where `position` actions were looked at
before. -/
def checkKeys (mode : LoadMode) (file : Option Text) (seen : List ActionKey) (position : Nat) :
    List Action → Loading Unit
  | [] => .pure ()
  | a :: rest =>
    (if a.key ∈ seen then Loading.emit mode (.shadowing a.key.text position file)
      else .pure ()).bind fun _ =>
      checkKeys mode file (a.key :: seen) (position + 1) rest

/-- The catalog of entries; of actions with one key the last stays, in the place of the first. -/
def ofRecords (actions : List Action) (locators : List Locator) (attributes : List Attribute)
    (annotations : List Annotation) : Snapshot :=
  ⟨deduplicate (·.key) actions, locators, attributes, annotations,
    nodup_keys_deduplicate (·.key) actions⟩

/-- The catalog in a map of sections. -/
def build (mode : LoadMode) (file : Option Text) (entries : Entries) : Loading Snapshot := do
  let actions ← readSection mode file "actions" Action.read entries
  let locators ← readSection mode file "locators" Locator.read entries
  let attributes ← readSection mode file "attributes" Attribute.read entries
  let annotations ← readSection mode file "annotations" Annotation.read entries
  checkKeys mode file [] 0 actions
  return ofRecords actions locators attributes annotations

end Snapshot

end Actionary
