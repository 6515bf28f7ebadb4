import Actionary.Number.Binary64

/-!
# The shortest decimal of a number

A finite number is written by the fewest decimal digits that read back as the same number; of
several such decimals the nearest one is taken.
-/

namespace Actionary

structure Decimal where
  digits : Nat
  exponent : Int
deriving DecidableEq, Repr

namespace Decimal

def readsBackAs (num den : Nat) (d : Decimal) : Bool :=
  Binary64.ofDecimal false d.digits d.exponent == Binary64.ofRatio false num den

/-- The greatest multiple of `10^exponent` that is not above a quotient, and what remains, over the
denominator that is returned last. -/
def floorOn (exponent : Int) (num den : Nat) : Nat × Nat × Nat :=
  if 0 ≤ exponent then
    let unit := den * Nat.pow 10 exponent.toNat
    (num / unit, num % unit, unit)
  else
    let scaled := num * Nat.pow 10 (-exponent).toNat
    (scaled / den, scaled % den, den)

/-- The decimal on the grid of `10^exponent` that reads back as the number of a quotient and is
nearest to it, if one of the two neighbours on that grid does. -/
def onGrid? (exponent : Int) (num den : Nat) : Option Decimal :=
  let (low, rest, unit) := floorOn exponent num den
  let below : Decimal := ⟨low, exponent⟩
  let above : Decimal := ⟨low + 1, exponent⟩
  let nearer := if 2 * rest < unit || (2 * rest == unit && low % 2 == 0) then
      [below, above] else [above, below]
  nearer.find? (readsBackAs num den)

/-- An upper bound, exact or one too large, of the number of digits before the point. -/
def magnitude (num den : Nat) : Int :=
  let a : Int := (Nat.toDigits 10 num).length
  let b : Int := (Nat.toDigits 10 den).length
  let top := a - b
  -- The quotient lies strictly between `10^(top-1)` and `10^(top+1)`.
  let below :=
    if 0 ≤ top then num < den * Nat.pow 10 top.toNat else num * Nat.pow 10 (-top).toNat < den
  if below then top else top + 1

/-- The first decimal found with one digit, with two digits, and so on. -/
def search (num den : Nat) (top : Int) : Nat → Nat → Option Decimal
  | _, 0 => none
  | count, more + 1 =>
    match onGrid? (top - count) num den with
    | some d => some d
    | none => search num den top (count + 1) more

/-- The shortest decimal that reads back as the number of a positive quotient. Seventeen digits
always do. -/
def shortest (num den : Nat) : Decimal :=
  (search num den (magnitude num den) 1 17).getD ⟨0, 0⟩

end Decimal

/-- Which decimals are written without a power of ten, and how the power is written otherwise. -/
structure NumberFormat where
  leastPoint : Int
  greatestPoint : Int
  exponentDigits : Nat
  nan : String
  infinity : String

/-- Powers of ten from `10^16` on and below `10^-4` are written with an exponent of two digits at
least, always with its sign. -/
def NumberFormat.plain : NumberFormat :=
  ⟨-3, 16, 2, "nan", "inf"⟩

/-- The digits of a decimal with a point placed after the given number of them. -/
def NumberFormat.positional (digits : List Char) (point : Int) : List Char :=
  if point ≤ 0 then '0' :: '.' :: List.replicate (-point).toNat '0' ++ digits
  else if digits.length ≤ point.toNat then
    digits ++ List.replicate (point.toNat - digits.length) '0' ++ ['.', '0']
  else digits.take point.toNat ++ '.' :: digits.drop point.toNat

def NumberFormat.scientific (f : NumberFormat) (digits : List Char) (point : Int) : List Char :=
  let power := (Nat.toDigits 10 (point - 1).natAbs)
  let padded := List.replicate (f.exponentDigits - power.length) '0' ++ power
  let mantissa := match digits with
    | [] => []
    | [d] => [d]
    | d :: ds => d :: '.' :: ds
  mantissa ++ 'e' :: (if point - 1 < 0 then '-' else '+') :: padded

def Binary64.format (f : NumberFormat) : Binary64 → String
  | .nan => f.nan
  | .infinite negative => (if negative then "-" else "") ++ f.infinity
  | .finite negative m e =>
    let sign := if negative then "-" else ""
    if m == 0 then sign ++ "0.0"
    else
      let (num, den) := (Binary64.finite false m e).toRatio
      let d := Decimal.shortest num.natAbs den
      let digits := Nat.toDigits 10 d.digits
      let point : Int := digits.length + d.exponent
      let significant := (digits.reverse.dropWhile (· == '0')).reverse
      sign ++ String.ofList
        (if f.leastPoint ≤ point && point ≤ f.greatestPoint then
          NumberFormat.positional significant point
        else f.scientific significant point)

def Binary64.text (x : Binary64) : String :=
  x.format .plain

end Actionary
