import Actionary.Text.Ranges
import Actionary.Text.WordRanges

/-!
# Word characters

The letters and numerals of all scripts and the underscore. Between a word character and any other
character, or an end of the text, lies a word boundary.
-/

namespace Actionary.Text

def isAsciiWord (c : Code) : Bool :=
  c.isAlphanum || c == '_'

def isWord (c : Code) : Bool :=
  if c.toNat < 0x80 then isAsciiWord c else inRanges letterNumeralRanges c

end Actionary.Text
