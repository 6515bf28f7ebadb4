import Actionary.Catalog.Snapshot
import Actionary.Snippet.Placeholder

/-!
# Fragments of templates

What each part of an action looks like in a template. A part has the same tab stop in every
template, whichever other parts the template has.
-/

namespace Actionary.Snippet

def firstStop : Int := 1

def locatorStop : Int := 5

def locatorKindStop : Int := 6

def attributeStop : Int := 7

def regexStop : Int := 8

/-- The phrases of the other names of an action, in ascending order. -/
def aliasPhrases (a : Action) : List Text :=
  sorted (a.aliases.map phraseOf)

/-- The name of an action: its phrase, or a choice of its phrase and those of its other names. -/
def actionFragment (a : Action) : Text :=
  match aliasPhrases a with
  | [] => a.phrase
  | phrases => braced (choice firstStop (a.phrase :: phrases))

def argumentFragment : Text :=
  braced (placeholder firstStop "argument value")

def flagsFragment : Text :=
  braced (braced ("$ " ++ placeholder firstStop "parameters values"))

def elementFragment (verb : Text) (locators : List Text) : Text :=
  verb ++ " " ++ braced (placeholder locatorStop "locator value") ++ " by " ++
    braced (choice locatorKindStop locators)

def attributeFragment (attributes : List Text) : Text :=
  "from " ++ braced (choice attributeStop attributes)

def regexFragment : Text :=
  "with regex " ++ braced (placeholder regexStop ".*")

end Actionary.Snippet
