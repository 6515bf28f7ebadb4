import Actionary.Catalog.Loading
import Actionary.Completion.Request
import Actionary.Text.LetterCase

/-!
# Settings

What can be set from outside: the section for actions, the pattern that recognizes actions, and
whether catalogs are loaded strictly. An explicit argument wins over the environment, and the
environment over the value that a field has by itself.
-/

namespace Actionary

structure Settings where
  sectionName : Text
  pattern : Option Text
  strict : Bool
deriving DecidableEq, Repr

namespace Settings

def variableStart : Text := "rhino_"

def fieldNames : List Text := ["section", "action_pattern", "strict"]

/-- The field that a variable sets. Letters of either case may be used in its name. -/
def fieldOf? (name : Text) : Option Text :=
  let lowered := Text.ofList (Text.lower name.toList)
  fieldNames.find? fun field => variableStart ++ field == lowered

/-- The fields that the environment sets; of several variables for one field the last counts. -/
def ofEnvironment (environment : List (Text × Text)) : Entries :=
  environment.foldl
    (fun entries v =>
      match fieldOf? v.1 with
      | some field => Value.assign entries field (.text v.2)
      | none => entries)
    []

/-- The entries of the environment, with those of the arguments in their place. -/
def merged (environment : List (Text × Text)) (arguments : List (Text × Value)) : Entries :=
  arguments.foldl (fun entries a => Value.assign entries a.1 a.2) (ofEnvironment environment)

def read (environment : List (Text × Text)) (arguments : List (Text × Value)) :
    Checked Settings :=
  let entries := merged environment arguments
  (Checked.valid Settings.mk)
    |>.apply (entries.withDefault "section" defaultSection Field.text)
    |>.apply (entries.withDefault "action_pattern" none (Field.optional Field.text))
    |>.apply (entries.withDefault "strict" false Field.truth)

def mode (s : Settings) : LoadMode :=
  .ofStrict s.strict

def optionalText : Option Text → Value
  | some s => .text s
  | none => .null

def config (s : Settings) (catalog : Snapshot) : Checked Config :=
  Config.readWith (.valid catalog)
    [(.text "pattern", optionalText s.pattern), (.text "section", .text s.sectionName)]

end Settings

end Actionary
