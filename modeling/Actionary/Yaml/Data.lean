import Actionary.Number.Numeral
import Actionary.Pattern.Syntax
import Actionary.Value
import Actionary.Yaml.Base64
import Actionary.Yaml.Problem

/-!
# What scalars stand for

The truth value, the number, the time or the bytes that the text of a scalar writes.
-/

namespace Actionary.Yaml

open Actionary.Text

def boolWord? (text : List Code) : Option Bool :=
  let word := Text.ofList (lower text)
  if [("yes" : Text), "true", "on"].contains word then some true
  else if [("no" : Text), "false", "off"].contains word then some false
  else none

/-- The parts of a text between colons. -/
def colonParts (cs : List Code) : List (List Code) :=
  cs.splitOnP (· == ':')

/-- Splits off a sign: whether it is a minus, and the rest. -/
def signOf? : List Code → Option (Bool × List Code)
  | [] => none
  | '-' :: cs => some (true, cs)
  | '+' :: cs => some (false, cs)
  | cs => some (false, cs)

/-- The number of sixties and units that parts write, the first part being the greatest. -/
def sexagesimal (parts : List Int) : Int :=
  parts.foldl (fun n part => n * 60 + part) 0

def unsignedInt? (cs : List Code) : Option Int :=
  match cs with
  | [] => none
  | ['0'] => some 0
  | '0' :: 'b' :: ds => Numeral.int? 2 ds
  | '0' :: 'x' :: ds => Numeral.int? 16 ds
  | '0' :: _ => Numeral.int? 8 cs
  | _ =>
    if cs.contains ':' then ((colonParts cs).mapM (Numeral.int? 10)).map sexagesimal
    else Numeral.int? 10 cs

/-- The integer of a text: binary, octal, decimal, hexadecimal or sexagesimal, with underscores
anywhere. -/
def intOf? (text : List Code) : Option Int := do
  let (negative, cs) ← signOf? (text.filter (· != '_'))
  let n ← unsignedInt? cs
  return if negative then -n else n

/-- The sum of parts, the last part counting once, the one before it sixty times, and so on. There
is none if a part counts more often than a floating-point number can say. -/
def sexagesimalFloat? (parts : List Binary64) : Option Binary64 := do
  let (sum, _) ← parts.reverse.foldlM
    (fun (s : Binary64 × Nat) part =>
      match Binary64.ofNat s.2 with
      | .finite negative m e => some (s.1.add (part.mul (.finite negative m e)), s.2 * 60)
      | _ => none)
    (Binary64.zero false, 1)
  return sum

def unsignedFloat? (cs : List Code) : Option Binary64 :=
  if cs == (Text.toList ".inf") then some (.infinite false)
  else if cs == (Text.toList ".nan") then some .nan
  else if cs.contains ':' then ((colonParts cs).mapM Numeral.float?).bind sexagesimalFloat?
  else Numeral.float? cs

def floatParts? (text : List Code) : Option (Bool × List Code) :=
  signOf? (lower (text.filter (· != '_')))

def floatOf? (text : List Code) : Option Binary64 := do
  let (negative, cs) ← floatParts? text
  let x ← unsignedFloat? cs
  return if negative then x.negate else x

def isNanConstant (text : List Code) : Bool :=
  (floatParts? text).any fun p => p.2 == Text.toList ".nan"

def momentPattern : Option Pattern.Expr :=
  Pattern.Expr.parse? <|
    Text.toList ("^([0-9][0-9][0-9][0-9])-([0-9][0-9]?)-([0-9][0-9]?)" ++
      "(?:(?:[Tt]|[ \\t]+)([0-9][0-9]?):([0-9][0-9]):([0-9][0-9])(?:\\.([0-9]*))?" ++
      "(?:[ \\t]*(Z|([-+])([0-9][0-9]?)(?::([0-9][0-9]))?))?)?$")

def decimalOf (cs : List Code) : Nat :=
  cs.foldl (fun n c => n * 10 + (c.toNat - 48)) 0

def microsOf (fraction : List Code) : Nat :=
  let digits := fraction.take 6
  decimalOf digits * Nat.pow 10 (6 - digits.length)

/-- The offset of a time zone in minutes, from the groups of `momentPattern`. -/
def offsetOf (f : Pattern.Found) : Option Int :=
  match f.group? 9, f.group? 8 with
  | some sign, _ =>
    let minutes := decimalOf ((f.group? 10).getD []) * 60 + decimalOf ((f.group? 11).getD [])
    some (if sign == [.char '-'] then -(minutes : Int) else minutes)
  | none, some _ => some 0
  | none, none => none

def timeOf? (origin : Nat) (text : List Code) : Option Value := do
  let e ← momentPattern
  let f ← e.fitStart text
  let part (n : Nat) : Nat := decimalOf ((f.group? n).getD [])
  let date ← Date.of? (part 1) (part 2) (part 3)
  match f.group? 4 with
  | none => return .date date (some origin)
  | some _ =>
    let m ← Moment.of? date (part 4) (part 5) (part 6)
      (microsOf ((f.group? 7).getD [])) (offsetOf f)
    return .moment m (some origin)

/-- The wording for a text that is not ASCII: its first run of other characters. -/
def asciiFault? (text : List Code) : Option Text :=
  let before := text.takeWhile (·.toNat < 128)
  match text.dropWhile (·.toNat < 128) with
  | [] => none
  | c :: cs =>
    let more := cs.takeWhile (·.toNat ≥ 128)
    let start := before.length
    let reason := ": ordinal not in range(128)"
    some <| "'ascii' codec can't encode character" ++
      if more.isEmpty then
        let n := c.toNat
        let digits := if n < 0x100 then "x" ++ Text.ofList (hexPadded 2 n)
          else if n < 0x10000 then "u" ++ Text.ofList (hexPadded 4 n)
          else "U" ++ Text.ofList (hexPadded 8 n)
        " '\\" ++ digits ++ "' in position " ++ toString start ++ reason
      else
        "s in position " ++ toString start ++ "-" ++ toString (start + more.length) ++ reason

def bytesOf (text : List Code) : Except Complaint Value :=
  match asciiFault? text with
  | some reason => .error (.dataNotAscii reason)
  | none =>
    match Base64.decode text with
    | .ok bytes => .ok (.bytes bytes)
    | .error f => .error (.badData f.message)

end Actionary.Yaml
