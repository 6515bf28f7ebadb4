import Actionary.Text.Code

/-!
# Blanks and words

The blank characters of a line of text, trimming, and the split of a text into its words.
Blanks are the characters with a white-space or separator role: the ASCII controls from tab to
carriage return and from file separator to unit separator, the space, the next-line control,
the no-break space and the wide and narrow spaces of the general punctuation block.
-/

namespace Actionary.Text

/-- The blank characters. -/
def isBlank (c : Code) : Bool :=
  let n := c.toNat
  (0x09 ≤ n && n ≤ 0x0D) || (0x1C ≤ n && n ≤ 0x20) || n == 0x85 || n == 0xA0 ||
    n == 0x1680 || (0x2000 ≤ n && n ≤ 0x200A) || n == 0x2028 || n == 0x2029 ||
    n == 0x202F || n == 0x205F || n == 0x3000

/-- The blanks among the ASCII characters that separate fields: no separator controls. -/
def isAsciiBlank (c : Code) : Bool :=
  c == ' ' || (0x09 ≤ c.toNat && c.toNat ≤ 0x0D)

/-- A text without the characters of a class at its start and its end. -/
def trimBy (p : Code → Bool) (cs : List Code) : List Code :=
  ((cs.dropWhile p).reverse.dropWhile p).reverse

def trim (cs : List Code) : List Code :=
  trimBy isBlank cs

/-- The maximal blank-free pieces of a text, in order. A blank ends a piece; a character before a
piece joins it. -/
def words : List Code → List (List Code)
  | [] => []
  | c :: cs =>
    if isBlank c then words cs
    else
      match cs with
      | [] => [[c]]
      | d :: _ =>
        if isBlank d then [c] :: words cs
        else
          match words cs with
          | [] => [[c]]
          | w :: ws => (c :: w) :: ws

end Actionary.Text
