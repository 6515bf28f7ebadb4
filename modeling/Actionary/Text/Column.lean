import Actionary.Text.Code

/-!
# Columns of a line

A column counts the characters before the cursor. A negative column counts back from the end of the
line, and a column beyond either end stands for that end.
-/

namespace Actionary.Text

/-- The characters of a line before a column. -/
def before (column : Int) (line : List Code) : List Code :=
  if 0 ≤ column then line.take column.toNat
  else line.take (line.length + column).toNat

end Actionary.Text
