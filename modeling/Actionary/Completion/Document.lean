import Actionary.Record.Field
import Actionary.Text.Line

/-!
# Documents and positions

The text being edited, as lines without their ends, and a place in it.
-/

namespace Actionary

/-- A place in a document, counted from zero. -/
structure Position where
  line : Nat
  character : Nat
deriving DecidableEq, Repr

def Position.read (v : Value) : Checked Position :=
  readRecord .position
    (fun entries =>
      entries.only ["line", "character"]
        ((Checked.valid Position.mk)
          |>.apply (entries.required "line" Field.natural)
          |>.apply (entries.required "character" Field.natural)))
    v

/-- A document: its lines without their ends. -/
structure Document where
  lines : List Text
deriving DecidableEq, Repr

namespace Document

def ofText (text : Text) : Document :=
  ⟨Text.splitLines text⟩

def lineAt? (d : Document) (p : Position) : Option Text :=
  d.lines[p.line]?

def read (v : Value) : Checked Document :=
  readRecord .document
    (fun entries =>
      entries.only ["lines"]
        ((Checked.valid Document.mk).apply (entries.withDefault "lines" [] Field.texts)))
    v

end Document

end Actionary
