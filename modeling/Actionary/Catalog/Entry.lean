import Actionary.Record.Field

/-!
# Locators, attributes and annotations

The short entries of a catalog. Each may be written as a bare text in place of a map.
-/

namespace Actionary

structure Locator where
  description : Text
  literal : Text
deriving DecidableEq, Repr

structure Attribute where
  description : Text
  key : Text
deriving DecidableEq, Repr

structure Annotation where
  description : Text
  key : Text
deriving DecidableEq, Repr

def expandText (field : Text) : Value → Value
  | .text s => .map [(.text field, .text s)]
  | v => v

def readEntry (make : Text → Text → α) (field : Text) (entries : Entries) : Checked α :=
  (Checked.valid make)
    |>.apply (entries.withDefault "description" "" Field.text)
    |>.apply (entries.required field Field.text)

def Locator.read (v : Value) : Checked Locator :=
  readRecord .locator (readEntry Locator.mk "literal") (expandText "literal" v)

def Attribute.read (v : Value) : Checked Attribute :=
  readRecord .elementAttribute (readEntry Attribute.mk "key") (expandText "key" v)

def Annotation.read (v : Value) : Checked Annotation :=
  readRecord .annotationEntry (readEntry Annotation.mk "key") (expandText "key" v)

end Actionary
