import Actionary.Text.Code

/-!
# Classes of code points

A class of characters is given by the closed intervals of its code points, in ascending order.
-/

namespace Actionary.Text

/-- Whether a character lies in one of the given closed intervals of code points. -/
def inRanges (ranges : List (Nat × Nat)) (c : Code) : Bool :=
  ranges.any fun r => r.1 ≤ c.toNat && c.toNat ≤ r.2

end Actionary.Text
