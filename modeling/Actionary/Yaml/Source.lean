import Actionary.Text.Code

/-!
# Texts to read

A text given as a whole is looked at as a whole, and one character that cannot stand in a document
makes it unreadable. A text that comes as a stream is taken block by block: such a character shows
only when its block is needed, and what is wrong with the text before that is found first.
-/

namespace Actionary.Yaml

def isPrintable (c : Code) : Bool :=
  let n := c.toNat
  n == 0x9 || n == 0xA || n == 0xD || (0x20 ≤ n && n ≤ 0x7E) || n == 0x85 ||
    (0xA0 ≤ n && n ≤ 0xD7FF) || (0xE000 ≤ n && n ≤ 0xFFFD) || 0x10000 ≤ n

/-- The characters that can be read, and whether they break off with something behind them that
cannot. -/
structure Source where
  text : List Code
  broken : Bool
deriving Repr

namespace Source

def whole (text : List Code) : Source :=
  if text.all isPrintable then ⟨text, false⟩ else ⟨[], true⟩

def blockSize : Nat := 4096

/-- Where the block of a character starts. The first two blocks are taken at once. -/
def blockStart (index : Nat) : Nat :=
  if index < 2 * blockSize then 0 else index / blockSize * blockSize

/-- A text that comes as a stream, and whether the stream breaks off behind it. -/
def stream (text : List Code) (broken : Bool) : Source :=
  let readable := text.takeWhile isPrintable
  if broken || readable.length < text.length then ⟨text.take (blockStart readable.length), true⟩
  else ⟨text, false⟩

/-- Whether reading to a place needs what cannot be read. The character behind the place is always
looked at. -/
def fails (s : Source) (index : Nat) : Bool :=
  s.broken && s.text.length ≤ index + 1

end Source

end Actionary.Yaml
