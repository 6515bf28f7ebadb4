import Actionary.Text.IdentifierRanges
import Actionary.Text.Ranges

/-!
# Identifiers

An identifier starts with a letter of any script or an underscore; digits, marks and connecting
punctuation can follow.
-/

namespace Actionary.Text

def startsIdentifier (c : Code) : Bool :=
  if c.toNat < 0x80 then c.isAlpha || c == '_' else inRanges identifierStartRanges c

def inIdentifier (c : Code) : Bool :=
  startsIdentifier c || if c.toNat < 0x80 then c.isDigit else inRanges identifierInnerRanges c

def isIdentifier : List Code → Bool
  | [] => false
  | c :: cs => startsIdentifier c && cs.all inIdentifier

end Actionary.Text
