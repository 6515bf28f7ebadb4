import Actionary.Text.Code

/-!
# Lines of a text

A text is cut into lines at its line ends. A carriage return with the line feed after it is one
end; every other line end counts alone. An end closes a line, so a text that stops with one has no
further empty line after it.
-/

namespace Actionary.Text

def isLineEnd (c : Code) : Bool :=
  let n := c.toNat
  (0x0A ≤ n && n ≤ 0x0D) || (0x1C ≤ n && n ≤ 0x1E) || n == 0x85 || n == 0x2028 || n == 0x2029

def lines : List Code → List (List Code)
  | [] => []
  | '\r' :: '\n' :: cs => [] :: lines cs
  | c :: cs =>
    if isLineEnd c then [] :: lines cs
    else
      match lines cs with
      | [] => [[c]]
      | l :: ls => (c :: l) :: ls

/-- The lines of a string. -/
def splitLines (s : Text) : List Text :=
  (lines s.toList).map Text.ofList

/-- Every line end of a text written as a single line feed: a carriage return, with or without a
line feed after it, becomes one. -/
def normalizeReturns : List Code → List Code
  | [] => []
  | '\r' :: '\n' :: cs => '\n' :: normalizeReturns cs
  | c :: cs => (if c == '\r' then '\n' else c) :: normalizeReturns cs

end Actionary.Text
