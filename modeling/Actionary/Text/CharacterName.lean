import Actionary.Text.CharacterNames.Alias
import Actionary.Text.CharacterNames.From0020
import Actionary.Text.CharacterNames.From124A
import Actionary.Text.CharacterNames.From2440
import Actionary.Text.CharacterNames.From3041
import Actionary.Text.CharacterNames.FromFE54
import Actionary.Text.CharacterNames.From12F90
import Actionary.Text.CharacterNames.From1DA9B
import Actionary.Text.CharacterNames.FromE0001

/-!
# Characters by name

Finds the code point of a character by its name. Most names are kept in tables, in which letters of
either case are the same. The names of Korean syllables are spelled from their parts, and those of
the unified ideographs from their code points; these two kinds are written in capital letters only.
-/

namespace Actionary.Text

def characterTables : List String :=
  [charactersFrom0020, charactersFrom124A, charactersFrom2440, charactersFrom3041,
    charactersFromFE54, charactersFrom12F90, charactersFrom1DA9B, charactersFromE0001,
    characterAliases]

/-- The words of a name, each with the blank or the hyphen after it. -/
def nameWords : List Char → List (List Char)
  | [] => []
  | c :: cs =>
    if c == ' ' || c == '-' then [c] :: nameWords cs
    else
      match nameWords cs with
      | [] => [[c]]
      | w :: ws => (c :: w) :: ws

structure NamedCharacter where
  point : Nat
  words : List (List Char)

def hexCapitals? (cs : List Char) : Option Nat :=
  cs.foldlM
    (fun n c =>
      if c.isDigit then some (n * 16 + (c.toNat - '0'.toNat))
      else if 'A' ≤ c && c ≤ 'F' then some (n * 16 + (c.toNat - 'A'.toNat + 10))
      else none)
    0

namespace NamedCharacter

/-- The character that an entry of a table names, given the one before it. -/
def ofEntry (previous : NamedCharacter) (entry : List Char) : NamedCharacter :=
  let (point, rest) :=
    match entry.dropWhile (· != ':') with
    | [] => (previous.point + 1, entry)
    | _ :: rest => ((hexCapitals? (entry.takeWhile (· != ':'))).getD 0, rest)
  match rest with
  | [] => ⟨point, []⟩
  | c :: cs =>
    if c.isLower then ⟨point, previous.words.take (c.toNat - 'a'.toNat + 1) ++ nameWords cs⟩
    else ⟨point, nameWords (c :: cs)⟩

/-- The code point of a name in the entries of a table, given the character before the first entry.
-/
def find? (wanted : List (List Char)) : NamedCharacter → List (List Char) → Option Nat
  | _, [] => none
  | previous, entry :: entries =>
    let c := previous.ofEntry entry
    if c.words == wanted then some c.point else find? wanted c entries

end NamedCharacter

def tableEntries (table : String) : List (List Char) :=
  (table.splitOn "\n").flatMap fun line =>
    (line.splitOn "|").map fun entry => entry.toList.dropWhile (· == ' ')

def syllableInitials : List String :=
  ["G", "GG", "N", "D", "DD", "R", "M", "B", "BB", "S", "SS", "", "J", "JJ", "C", "K",
    "T", "P", "H"]

def syllableVowels : List String :=
  ["A", "AE", "YA", "YAE", "EO", "E", "YEO", "YE", "O", "WA", "WAE", "OE", "YO", "U", "WEO", "WE",
    "WI", "YU", "EU", "YI", "I"]

def syllableFinals : List String :=
  ["", "G", "GG", "GS", "N", "NJ", "NH", "D", "L", "LG", "LM", "LB", "LS", "LT", "LP", "LH", "M",
    "B", "BS", "S", "SS", "NG", "J", "C", "K", "T", "P", "H"]

/-- The longest of the given parts that starts a text: its number and what is left of the text. -/
def longestPart? (parts : List String) (cs : List Char) : Option (Nat × List Char) :=
  (parts.zipIdx.foldl
    (fun (best : Option (Nat × Nat)) part =>
      if part.1.toList.isPrefixOf cs && best.all (·.2 < part.1.length) then
        some (part.2, part.1.length)
      else best)
    none).map fun best => (best.1, cs.drop best.2)

def syllable? (cs : List Char) : Option Nat := do
  let (initial, cs) ← longestPart? syllableInitials cs
  let (vowel, cs) ← longestPart? syllableVowels cs
  let (final, cs) ← longestPart? syllableFinals cs
  if cs.isEmpty then
    some (0xAC00 + (initial * syllableVowels.length + vowel) * syllableFinals.length + final)
  else none

def ideographRanges : List (Nat × Nat) :=
  [(0x3400, 0x4DBF), (0x4E00, 0x9FFF), (0x20000, 0x2A6DF), (0x2A700, 0x2B739), (0x2B740, 0x2B81D),
    (0x2B820, 0x2CEA1), (0x2CEB0, 0x2EBE0), (0x30000, 0x3134A), (0x31350, 0x323AF)]

/-- The code point of a unified ideograph, which is written in four or five digits. -/
def ideograph? (cs : List Char) : Option Nat := do
  let n ← hexCapitals? cs
  if (cs.length == 4 || cs.length == 5) && ideographRanges.any (fun r => r.1 ≤ n && n ≤ r.2) then
    some n
  else none

def syllableMark : List Char := "HANGUL SYLLABLE ".toList

def ideographMark : List Char := "CJK UNIFIED IDEOGRAPH-".toList

def characterNamed? (name : List Char) : Option Nat :=
  if syllableMark.isPrefixOf name then syllable? (name.drop syllableMark.length)
  else if ideographMark.isPrefixOf name then ideograph? (name.drop ideographMark.length)
  else
    let wanted := nameWords (name.map Char.toUpper)
    characterTables.findSome? fun table => NamedCharacter.find? wanted ⟨0, []⟩ (tableEntries table)

end Actionary.Text
