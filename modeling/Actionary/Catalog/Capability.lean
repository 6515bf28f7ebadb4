import Actionary.Record.Field

/-!
# Capabilities

What an action can take: an argument, a list of flags, an element, an attribute of the element, a
regular expression. The set is closed, and each capability has a name of its own in catalogs.
-/

namespace Actionary

inductive Capability where
  | flags
  | argument
  | element
  | elementAttribute
  | regex
deriving DecidableEq, Repr

namespace Capability

def name : Capability → Text
  | .flags => "cliArguments"
  | .argument => "argument"
  | .element => "elementToActOn"
  | .elementAttribute => "elementAttributeToActOn"
  | .regex => "regularExpression"

def all : List Capability :=
  [.flags, .argument, .element, .elementAttribute, .regex]

def ofName? (name : Text) : Option Capability :=
  all.find? (·.name == name)

def read (v : Value) : Checked Capability :=
  match Field.text v with
  | .valid s =>
    (Field.encoded s).bind fun s =>
      match ofName? s with
      | some c => .valid c
      | none => .fault .notCapability
  | .faulty _ _ => .fault .notCapability

end Capability

structure Capabilities where
  flags : Bool := false
  argument : Bool := false
  element : Bool := false
  elementAttribute : Bool := false
  regex : Bool := false
deriving DecidableEq, Repr

namespace Capabilities

def has (s : Capabilities) : Capability → Bool
  | .flags => s.flags
  | .argument => s.argument
  | .element => s.element
  | .elementAttribute => s.elementAttribute
  | .regex => s.regex

def insert (s : Capabilities) : Capability → Capabilities
  | .flags => { s with flags := true }
  | .argument => { s with argument := true }
  | .element => { s with element := true }
  | .elementAttribute => { s with elementAttribute := true }
  | .regex => { s with regex := true }

def ofList (cs : List Capability) : Capabilities :=
  cs.foldl insert {}

def toList (s : Capabilities) : List Capability :=
  Capability.all.filter s.has

def union (s t : Capabilities) : Capabilities :=
  ⟨s.flags || t.flags, s.argument || t.argument, s.element || t.element,
    s.elementAttribute || t.elementAttribute, s.regex || t.regex⟩

/-- Reads a set of capabilities from a collection of their names. -/
def read (v : Value) : Checked Capabilities :=
  match Field.members? v with
  | some items => (Checked.each Capability.read items).map ofList
  | none => .fault .notCollection

end Capabilities

end Actionary
