import Actionary.Text.Blank
import Actionary.Text.LetterCase

/-!
# Keys and phrases

An action has a key, such as `ClickOnElement`, and is written in a script as a phrase, such as
`click on element`. Every ASCII capital of a key starts a word of the phrase; the words of a phrase,
each with a capital in front, make the key again.
-/

namespace Actionary

open Actionary.Text

def startsWord (c : Code) : Bool :=
  'A' ≤ c && c ≤ 'Z'

/-- A name with a blank in front of every word. -/
def spaced : List Code → List Code
  | [] => []
  | c :: cs => if startsWord c then ' ' :: c :: spaced cs else c :: spaced cs

/-- The phrase of a name: its words in small letters, with a blank between them. -/
def phraseChars (name : List Code) : List Code :=
  lower (trim (spaced name))

def phraseOf (name : Text) : Text :=
  Text.ofList (phraseChars name.toList)

/-- A word with a capital in front. -/
def capitalized : List Code → List Code
  | [] => []
  | c :: cs => upperChar c ++ cs

/-- The key of a phrase: its words, each with a capital in front and otherwise in small letters. -/
def keyChars (phrase : List Code) : List Code :=
  (words (lower phrase)).flatMap capitalized

def keyOf (phrase : Text) : Text :=
  Text.ofList (keyChars phrase.toList)

/-- Whether a text is the key of an action: an ASCII letter, then ASCII letters and digits. -/
def isActionKey : List Code → Bool
  | [] => false
  | c :: cs => c.isAlpha && cs.all Code.isAlphanum

structure ActionKey where
  text : Text
  valid : isActionKey text.toList = true
deriving DecidableEq, Repr

namespace ActionKey

theorem eq_of_text_eq {k l : ActionKey} (h : k.text = l.text) : k = l := by
  cases k
  cases l
  cases h
  rfl

def ofText? (text : Text) : Option ActionKey :=
  if h : isActionKey text.toList = true then some ⟨text, h⟩ else none

def phrase (k : ActionKey) : Text :=
  phraseOf k.text

end ActionKey

end Actionary
