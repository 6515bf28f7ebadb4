import Actionary.Text.Column

/-!
# Inside a list of flags

A list of flags is opened by two braces and a dollar sign, and closed by two braces. The cursor is
inside a list if the last opening mark before it is not followed by a closing mark.
-/

namespace Actionary

def openMark : List Code := ['{', '{', '$']

def closeMark : List Code := ['}', '}']

/-- What follows the last occurrence of a mark. -/
def afterLast? (mark : List Code) : List Code → Option (List Code)
  | [] => none
  | c :: cs =>
    match afterLast? mark cs with
    | some rest => some rest
    | none => if mark.isPrefixOf (c :: cs) then some ((c :: cs).drop mark.length) else none

def occursIn (mark : List Code) : List Code → Bool
  | [] => mark.isEmpty
  | c :: cs => mark.isPrefixOf (c :: cs) || occursIn mark cs

def endsInFlagList (text : List Code) : Bool :=
  match afterLast? openMark text with
  | some rest => !occursIn closeMark rest
  | none => false

/-- Whether a column of a line is inside a list of flags. -/
def inFlagList (line : Text) (column : Int) : Bool :=
  endsInFlagList (Text.before column line.toList)

end Actionary
