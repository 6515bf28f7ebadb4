import Actionary.Text.Code

/-!
# Places in a document text

A place is what is left of a text, with the line and the column it starts at. The end of the text
reads as the null character, which no document contains.
-/

namespace Actionary.Yaml

/-- Where something is in a text, counted from zero. -/
structure Mark where
  index : Nat
  line : Nat
  column : Nat
deriving DecidableEq, Repr, Inhabited

/-- A place in a text: what is left, where that is, and the size of the whole text. -/
structure Place where
  rest : List Code
  mark : Mark
  size : Nat
deriving Repr, Inhabited

/-- What the end of a text reads as. -/
def endChar : Code := '\x00'

def isBreak (c : Code) : Bool :=
  c == '\n' || c == '\r' || c == '\x85' || c == '\u2028' || c == '\u2029'

def isBreakOrEnd (c : Code) : Bool :=
  c == endChar || isBreak c

def isSpaceOrEnd (c : Code) : Bool :=
  c == ' ' || isBreakOrEnd c

/-- Whether a character is a space or a tab, or ends a line or the text. -/
def isGap (c : Code) : Bool :=
  c == '\t' || isSpaceOrEnd c

namespace Place

def start (text : List Code) : Place :=
  ⟨text, ⟨0, 0, 0⟩, text.length⟩

/-- More than the number of characters that are left, as the fuel for going over them. -/
def fuel (p : Place) : Nat :=
  p.size + 1 - p.mark.index

def head (p : Place) : Code :=
  p.rest.headD endChar

def ahead (p : Place) (n : Nat) : Code :=
  (p.rest.drop n).headD endChar

/-- The place after the next character. A carriage return before a line feed does not end a line,
and a byte order mark takes no column. -/
def next (p : Place) : Place :=
  match p.rest with
  | [] => p
  | c :: cs =>
    let m := p.mark
    if c == '\n' || c == '\x85' || c == '\u2028' || c == '\u2029' ||
        (c == '\r' && cs.headD endChar != '\n') then
      ⟨cs, ⟨m.index + 1, m.line + 1, 0⟩, p.size⟩
    else if c == '\ufeff' then ⟨cs, ⟨m.index + 1, m.line, m.column⟩, p.size⟩
    else ⟨cs, ⟨m.index + 1, m.line, m.column + 1⟩, p.size⟩

def skip (p : Place) : Nat → Place
  | 0 => p
  | n + 1 => p.next.skip n

def take (p : Place) (n : Nat) : List Code :=
  p.rest.take n

/-- The characters that meet a test, up to the first that does not. -/
def run (p : Place) (test : Code → Bool) : List Code :=
  p.rest.takeWhile test

def skipWhile (p : Place) (test : Code → Bool) : Place :=
  p.skip (p.run test).length

/-- The line break at a place, if there is one, as it counts in a scalar, and the place after it. -/
def lineBreak (p : Place) : List Code × Place :=
  let c := p.head
  if c == '\r' && p.ahead 1 == '\n' then (['\n'], p.skip 2)
  else if c == '\r' || c == '\n' || c == '\x85' then (['\n'], p.next)
  else if c == '\u2028' || c == '\u2029' then ([c], p.next)
  else ([], p)

def atSeparator (p : Place) : Bool :=
  let mark := Text.ofList (p.take 3)
  (mark == "---" || mark == "...") && isGap (p.ahead 3)

end Place

end Actionary.Yaml
