import Actionary.Snippet.Basic
import Actionary.Snippet.Fragment

/-!
# Composed snippets

The templates of an action. Every action has a template with an argument, and one with a list of
flags if it takes flags. Each of these starts a chain: what else the action takes (an element, an
attribute, a regular expression, in this order) is added one by one, and every step gives a
template.
-/

namespace Actionary

namespace Snippet

/-- A part of a name with the text it stands for. -/
structure Part where
  name : Text
  text : Text
deriving DecidableEq, Repr

/-- The names that the choices of a template offer, in ascending order. -/
structure Choices where
  locators : List Text
  attributes : List Text
deriving DecidableEq, Repr

def Choices.of (locators attributes : List Text) : Choices :=
  ⟨sorted locators, sorted attributes⟩

def Choices.ofCatalog (s : Snapshot) : Choices :=
  .of s.locatorLiterals s.attributeKeys

/-- Where the chains of an action start. -/
def seeds (a : Action) : List Part :=
  let name := actionFragment a
  ⟨a.phrase ++ " w/ argument", name ++ " " ++ argumentFragment⟩ ::
    if a.has .flags then [⟨a.phrase ++ " w/ arguments", name ++ " " ++ flagsFragment⟩] else []

/-- What is added to a chain, with the capability it is for. -/
def additions (choices : Choices) (a : Action) : List (Capability × Part) :=
  [(.element, ⟨"w/ element", elementFragment a.verb choices.locators⟩),
    (.elementAttribute, ⟨"w/ attribute", attributeFragment choices.attributes⟩),
    (.regex, ⟨"w/ regex", regexFragment⟩)]

def parts (choices : Choices) (a : Action) : List Part :=
  ((additions choices a).filter fun p => a.has p.1).map (·.2)

def ofPart (a : Action) (p : Part) : Snippet :=
  ⟨p.name, p.text, a.description, a.source⟩

def Part.append (p q : Part) : Part :=
  ⟨p.name ++ " " ++ q.name, p.text ++ " " ++ q.text⟩

/-- A chain: its start, and what each addition makes of all before it. -/
def chain (start : Part) : List Part → List Part
  | [] => [start]
  | p :: ps => start :: chain (start.append p) ps

def compile (choices : Choices) (a : Action) : List Snippet :=
  (seeds a).flatMap fun start =>
    deduplicate (·.name) ((chain start (parts choices a)).map (ofPart a))

/-- The templates of a catalog. Where two actions give one name, the template of the later one
stands in the place of the earlier. -/
def compose (s : Snapshot) : List Snippet :=
  deduplicate (·.name) (s.actions.flatMap (compile (.ofCatalog s)))

end Snippet

end Actionary
