import Actionary.Completion.Flag
import Actionary.Completion.Section
import Actionary.Snippet.Compose

/-!
# Completion requests

What is offered at a place of a document: the snippets of the catalog, in the section for actions
and outside lists of flags; the flags of the action on the line, inside such a list. The two
questions about the place are put to a classifier, so that an editor with a better view of the
document can answer them.
-/

namespace Actionary

/-- The section for actions, if none is configured. -/
def defaultSection : Text := "test-actions"

structure Config where
  catalog : Snapshot
  pattern : Option Recognizer
  sectionName : Text

namespace Config

def default : Config :=
  ⟨.empty, none, defaultSection⟩

/-- Reads the fields of a configuration that are not the catalog, for a given catalog. -/
def readWith (catalog : Checked Snapshot) (entries : Entries) : Checked Config :=
  entries.only ["catalog", "pattern", "section"]
    ((Checked.valid Config.mk)
      |>.apply catalog
      |>.apply (entries.withDefault "pattern" none (Field.optional Recognizer.read))
      |>.apply (entries.withDefault "section" defaultSection Field.text))

def read (v : Value) : Checked Config :=
  readRecord .config
    (fun entries => readWith (entries.withDefault "catalog" .empty Snapshot.read) entries) v

/-- The recognizer in effect: the configured one, or that of the catalog. -/
def recognizer (c : Config) : Recognizer :=
  match c.pattern with
  | some r => r
  | none => .ofCatalog c.catalog

end Config

structure Classifier (m : Type → Type) where
  inFlagList : Text → Nat → m Bool
  inSection : Document → Position → Text → List Text → m Bool

def Classifier.byMarks : Classifier Id where
  inFlagList line column := Actionary.inFlagList line column
  inSection d p name known := Actionary.inSection d p name known

def offeredSnippetsBy [Monad m] (k : Classifier m) (c : Config) (d : Document) (p : Position) :
    m (List Snippet) := do
  match d.lineAt? p with
  | none => return []
  | some line =>
    if ← k.inFlagList line p.character then return []
    if ← k.inSection d p c.sectionName c.catalog.annotationKeys then
      return Snippet.compose c.catalog
    return []

def offeredSnippets (c : Config) (d : Document) (p : Position) : List Snippet :=
  Id.run (offeredSnippetsBy .byMarks c d p)

def offeredFlagsAt (conditions : List FlagCondition) (c : Config) (d : Document) (p : Position) :
    List OfferedFlag :=
  match d.lineAt? p with
  | none => []
  | some line =>
    match c.recognizer.resolve? c.catalog line with
    | none => []
    | some a => offeredFlags conditions a line p.character

end Actionary
