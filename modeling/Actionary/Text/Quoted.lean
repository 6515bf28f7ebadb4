import Actionary.Text.Ranges
import Actionary.Text.SilentRanges

/-!
# Text shown in quotes

A message shows a text between quotes so that its ends and its invisible characters can be seen.
Apostrophes are the quotes, unless the text holds an apostrophe and no quotation mark. The quote
itself and the backslash are escaped by a backslash; a character without a glyph is written by its
code point in hexadecimal digits.
-/

namespace Actionary.Text

def isSilent (c : Code) : Bool :=
  if c.toNat < 0x7F then c.toNat < 0x20 else inRanges silentRanges c

/-- A number in hexadecimal digits, with zeros in front up to the given width. -/
def hexPadded (width n : Nat) : List Code :=
  let digits := (Nat.toDigits 16 n).map Code.char
  List.replicate (width - digits.length) (.char '0') ++ digits

def quoteFor (cs : List Code) : Code :=
  if cs.contains '\'' && !cs.contains '"' then '"' else '\''

def quoteChar (quote c : Code) : List Code :=
  if c == quote || c == '\\' then ['\\', c]
  else if c == '\n' then ['\\', 'n']
  else if c == '\r' then ['\\', 'r']
  else if c == '\t' then ['\\', 't']
  else if !isSilent c then [c]
  else if c.toNat < 0x100 then '\\' :: 'x' :: hexPadded 2 c.toNat
  else if c.toNat < 0x10000 then '\\' :: 'u' :: hexPadded 4 c.toNat
  else '\\' :: 'U' :: hexPadded 8 c.toNat

def quoted (s : Text) : Text :=
  let cs := s.toList
  let quote := quoteFor cs
  Text.ofList (quote :: cs.flatMap (quoteChar quote) ++ [quote])

/-- One byte inside quotes: the printable ASCII characters stand for themselves. -/
def quoteByte (quote : Code) (b : UInt8) : List Code :=
  let c := Code.ofNat b.toNat
  if b.toNat < 0x7F then quoteChar quote c else '\\' :: 'x' :: hexPadded 2 b.toNat

/-- A sequence of bytes between quotes, marked by a `b` in front. -/
def quotedBytes (bytes : List UInt8) : Text :=
  let quote := quoteFor (bytes.map fun b => Code.ofNat b.toNat)
  Text.ofList (.char 'b' :: quote :: bytes.flatMap (quoteByte quote) ++ [quote])

end Actionary.Text
