import Actionary.Number.Binary64
import Actionary.Text.Blank
import Actionary.Text.Digit

/-!
# Numbers from text

How an integer and a decimal number are written: blanks around them, a sign, digits of any script,
a single underscore between two digits of an integer.
-/

namespace Actionary.Numeral

open Actionary.Text

def digitIn? (base : Nat) (c : Code) : Option Nat :=
  let value :=
    match digitValue? c with
    | some n => some n
    | none =>
      if 'a' ≤ c && c ≤ 'f' then some (c.toNat - 'a'.toNat + 10)
      else if 'A' ≤ c && c ≤ 'F' then some (c.toNat - 'A'.toNat + 10)
      else none
  match value with
  | some n => if n < base then some n else none
  | none => none

/-- A run of digits, with the value of the digits read before it. An underscore may stand between
two digits, and, where `leading` holds, in front. -/
def natFrom (base : Nat) (leading : Bool) (value : Nat) : List Code → Option Nat
  | [] => if leading then none else some value
  | '_' :: c :: cs =>
    match digitIn? base c with
    | some n => natFrom base false (value * base + n) cs
    | none => none
  | c :: cs =>
    match digitIn? base c with
    | some n => natFrom base false (value * base + n) cs
    | none => none

/-- Digits without a sign. Only digits may start them. -/
def nat? (base : Nat) : List Code → Option Nat
  | [] => none
  | '_' :: _ => none
  | cs => natFrom base true 0 cs

def marksBase (base : Nat) (c : Code) : Bool :=
  (base == 2 && (c == 'b' || c == 'B')) || (base == 8 && (c == 'o' || c == 'O')) ||
    (base == 16 && (c == 'x' || c == 'X'))

/-- Digits without a sign, with or without the mark of their base. -/
def magnitude? (base : Nat) : List Code → Option Nat
  | '0' :: m :: cs =>
    if marksBase base m then natFrom base true 0 cs else nat? base ('0' :: m :: cs)
  | cs => nat? base cs

def mostDigits : Nat := 4300

/-- Whether digits, perhaps with underscores among them, are too many for a decimal integer. -/
def tooLong (base : Nat) (cs : List Code) : Bool :=
  base == 10 && mostDigits < (cs.filter (· != Code.char '_')).length

def int? (base : Nat) (cs : List Code) : Option Int :=
  let (negative, ds) :=
    match trim cs with
    | '-' :: ds => (true, ds)
    | '+' :: ds => (false, ds)
    | ds => (false, ds)
  if tooLong base ds then none
  else (magnitude? base ds).map fun n => if negative then -(n : Int) else n

/-- The digits at the start of a text: their number, their value, and the rest. -/
def digits : List Code → Nat × Nat × List Code :=
  go 0 0
where
  go (count value : Nat) : List Code → Nat × Nat × List Code
    | [] => (count, value, [])
    | c :: cs =>
      match digitValue? c with
      | some n => go (count + 1) (value * 10 + n) cs
      | none => (count, value, c :: cs)

def exponent? : List Code → Option Int
  | [] => some 0
  | e :: cs =>
    if e == 'e' || e == 'E' then
      let (negative, ds) := match cs with
        | '-' :: ds => (true, ds)
        | '+' :: ds => (false, ds)
        | ds => (false, ds)
      match digits ds with
      | (0, _, _) => none
      | (_, n, []) => some (if negative then -(n : Int) else n)
      | _ => none
    else none

def special? (negative : Bool) (cs : List Code) : Option Binary64 :=
  let word := Text.ofList (cs.map Code.toLower)
  if word == "inf" || word == "infinity" then some (.infinite negative)
  else if word == "nan" then some .nan
  else none

def unsigned? (negative : Bool) (cs : List Code) : Option Binary64 :=
  match special? negative cs with
  | some x => some x
  | none =>
    let (whole, value, rest) := digits cs
    match rest with
    | '.' :: rest =>
      let (places, fraction, rest) := digits rest
      if whole == 0 && places == 0 then none
      else
        (exponent? rest).map fun e =>
          Binary64.ofDecimal negative (value * Nat.pow 10 places + fraction) (e - places)
    | rest =>
      if whole == 0 then none
      else (exponent? rest).map fun e => Binary64.ofDecimal negative value e

def float? (cs : List Code) : Option Binary64 :=
  match trim cs with
  | '-' :: ds => unsigned? true ds
  | '+' :: ds => unsigned? false ds
  | ds => unsigned? false ds

end Actionary.Numeral
