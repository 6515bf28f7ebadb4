import Actionary.Catalog.Capability
import Actionary.Catalog.FlagTable
import Actionary.Name

/-!
# Actions

An action of the catalog, and how it is read from a record. A record may carry an entity: a map of
what the action takes. The capabilities of an action follow from which members the entity has,
whatever the members hold; its flags and, where the record has none of its own, its description come
from the entity too.
-/

namespace Actionary

/-- An action of the catalog. The literal is how it is written in a script, and the verb is the word
in front of the element that it acts on. -/
structure Action where
  description : Text
  key : ActionKey
  verb : Text
  literal : Text
  aliases : List Text
  capabilities : Capabilities
  flags : FlagTable
  source : Text
deriving DecidableEq

namespace Action

def phrase (a : Action) : Text :=
  a.key.phrase

def has (a : Action) (c : Capability) : Bool :=
  a.capabilities.has c

/-- The word in front of the element if a record names none. -/
def defaultVerb : Text := "on"

def keyField (v : Value) : Checked ActionKey :=
  ((Field.text v).bind Field.encoded).bind fun s =>
    match ActionKey.ofText? s with
    | some k => .valid k
    | none => .fault .notActionKey

/-- A field that counts: not missing, nothing, false, zero or empty. -/
def present? (entries : Entries) (name : Text) : Option Value :=
  match Value.get? entries name with
  | some v => if v.isPresent then some v else none
  | none => none

def entity? (entries : Entries) : Option Entries :=
  match Value.get? entries "entity" with
  | some (.map entity) => some entity
  | _ => none

/-- The description of a record, or else that of its entity. -/
def readDescription (entries : Entries) : Checked Text :=
  match present? entries "description", (entity? entries).bind (present? · "description") with
  | none, some v => (Field.text v).under (.field "description")
  | _, _ => entries.withDefault "description" "" Field.text

/-- How a record is written: its literal, or else the phrase of its key. -/
def readLiteral (entries : Entries) : Checked Text :=
  match present? entries "literal", Value.get? entries "key" with
  | none, some (.text key) => .valid (phraseOf key)
  | _, _ => entries.required "literal" Field.text

/-- The other names of a record; nothing counts as none. -/
def readAliases (entries : Entries) : Checked (List Text) :=
  match Value.get? entries "aliases" with
  | some .null => .valid []
  | _ => entries.withDefault "aliases" [] Field.texts

def hasMember (entries : Entries) (name : Text) : Bool :=
  (Value.get? entries name).isSome

def propertyCapabilities : List Capability :=
  [.argument, .element, .elementAttribute, .regex]

def granted (entity : Entries) : Capabilities :=
  let properties : Entries :=
    match Value.get? entity "properties" with
    | some (.map properties) => properties
    | _ => []
  let fromProperties := propertyCapabilities.filter fun c => hasMember properties c.name
  let fromFlags := if hasMember entity Capability.flags.name then [Capability.flags] else []
  .ofList (fromProperties ++ fromFlags)

/-- The capabilities that a record declares, and those that its entity grants. -/
def readCapabilities (entries : Entries) : Checked Capabilities :=
  match entity? entries with
  | none => entries.withDefault "capabilities" {} Capabilities.read
  | some entity =>
    match present? entries "capabilities" with
    | none => .valid (granted entity)
    | some declared =>
      ((Capabilities.read declared).under (.field "capabilities")).map (·.union (granted entity))

/-- The flags of an entity with an empty text for each description that does not count. -/
def describedFlags : Value → Value
  | .null => .map []
  | .map entries => .map (entries.map fun e => (e.1, if e.2.isPresent then e.2 else .text ""))
  | v => v

def flagsField (v : Value) : Checked FlagTable :=
  (Field.textMap v).map .ofList

/-- The flags of the entity of a record, or else its own under either spelling of the field. -/
def readFlags (entries : Entries) : Checked FlagTable :=
  match (entity? entries).bind (Value.get? · Capability.flags.name) with
  | some v => (flagsField (describedFlags v)).under (.field "cli_arguments")
  | none =>
    match Value.get? entries "cli_arguments" with
    | some v => (flagsField v).under (.field "cli_arguments")
    | none => entries.withDefault "cliArguments" .empty flagsField

def readFields (entries : Entries) : Checked Action :=
  (Checked.valid Action.mk)
    |>.apply (readDescription entries)
    |>.apply (entries.required "key" keyField)
    |>.apply (entries.withDefault "verb" defaultVerb Field.text)
    |>.apply (readLiteral entries)
    |>.apply (readAliases entries)
    |>.apply (readCapabilities entries)
    |>.apply (readFlags entries)
    |>.apply (entries.withDefault "source" "" Field.text)

/-- Reads an action from a record. Fields that actions do not have are passed over. -/
def read (v : Value) : Checked Action :=
  readRecord .action readFields v

end Action

end Actionary
