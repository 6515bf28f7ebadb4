import Actionary.Record.Field

/-!
# Snippets

A template with the name it is offered under.
-/

namespace Actionary

structure Snippet where
  name : Text
  template : Text
  documentation : Text
  detail : Text
deriving DecidableEq, Repr

def Snippet.read (v : Value) : Checked Snippet :=
  readRecord .snippet
    (fun entries =>
      entries.only ["name", "template", "documentation", "detail"]
        ((Checked.valid Snippet.mk)
          |>.apply (entries.required "name" Field.text)
          |>.apply (entries.required "template" Field.text)
          |>.apply (entries.withDefault "documentation" "" Field.text)
          |>.apply (entries.withDefault "detail" "" Field.text)))
    v

namespace Snippet

/-- A snippet as an editor keeps it in its snippet files: what is typed, what is inserted, and a
description. -/
structure EditorEntry where
  trigger : Text
  body : Text
  description : Text
deriving DecidableEq, Repr

def editorEntry (s : Snippet) : EditorEntry :=
  ⟨s.name, s.template, s.documentation⟩

end Snippet

end Actionary
