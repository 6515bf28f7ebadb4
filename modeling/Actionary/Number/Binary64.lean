/-!
# Double-precision numbers

Numbers of the binary64 format as exact values: a finite number is `±mantissa · 2^exponent`, kept in
one form, so that equal numbers have equal fields (the two zeros apart). All rounding goes through
`ofRatio`, which takes a quotient of natural numbers to the nearest number, ties to the even one.
-/

namespace Actionary

/-- A double-precision number; a finite one is `±mantissa · 2^exponent`. -/
inductive Binary64 where
  | nan
  | infinite (negative : Bool)
  | finite (negative : Bool) (mantissa : Nat) (exponent : Int)
deriving DecidableEq, Repr, Inhabited

namespace Binary64

def zero (negative : Bool) : Binary64 :=
  .finite negative 0 (-1074)

/-- The quotient rounded to the nearest natural number, a half to the even neighbour. -/
def divRound (num den : Nat) : Nat :=
  let q := num / den
  let r := num % den
  if 2 * r > den || (2 * r == den && q % 2 == 1) then q + 1 else q

/-- The exponent of the last place of the number nearest to a positive quotient. -/
def lastPlace (num den : Nat) : Int :=
  let a : Int := num.log2
  let b : Int := den.log2
  let top := a - b
  -- The quotient lies strictly between `2^(top-1)` and `2^(top+1)`.
  let below :=
    if 0 ≤ top then num < den * Nat.pow 2 top.toNat else num * Nat.pow 2 (-top).toNat < den
  max (if below then top - 53 else top - 52) (-1074)

def ofRatio (negative : Bool) (num den : Nat) : Binary64 :=
  if num == 0 then zero negative
  else
    let place := lastPlace num den
    let m :=
      if 0 ≤ place then divRound num (den * Nat.pow 2 place.toNat)
      else divRound (num * Nat.pow 2 (-place).toNat) den
    let (m, place) := if m == 0x20000000000000 then (0x10000000000000, place + 1) else (m, place)
    if place > 971 then .infinite negative else .finite negative m place

/-- The number nearest to `±digits · 10^exponent`. Powers of ten that leave the range of the format
on either side are recognised before they are computed. -/
def ofDecimal (negative : Bool) (digits : Nat) (exponent : Int) : Binary64 :=
  if digits == 0 then zero negative
  else if exponent > 400 then .infinite negative
  else if (Nat.toDigits 10 digits).length + exponent < -400 then zero negative
  else if 0 ≤ exponent then ofRatio negative (digits * Nat.pow 10 exponent.toNat) 1
  else ofRatio negative digits (Nat.pow 10 (-exponent).toNat)

def ofNat (n : Nat) : Binary64 :=
  ofRatio false n 1

def toRatio : Binary64 → Int × Nat
  | .finite negative m e =>
    let sign : Int := if negative then -1 else 1
    if 0 ≤ e then (sign * (m * Nat.pow 2 e.toNat : Nat), 1) else (sign * m, Nat.pow 2 (-e).toNat)
  | _ => (0, 1)

def ofSignedRatio (num : Int) (den : Nat) : Binary64 :=
  ofRatio (num < 0) num.natAbs den

def isNegative : Binary64 → Bool
  | .nan => false
  | .infinite negative | .finite negative _ _ => negative

/-- The rounded sum of two numbers. Opposite infinities have none, and a sum of zero is negative
only if both numbers are. -/
def add : Binary64 → Binary64 → Binary64
  | .nan, _ | _, .nan => .nan
  | .infinite s, .infinite t => if s == t then .infinite s else .nan
  | .infinite s, _ | _, .infinite s => .infinite s
  | x, y =>
    let (a, b) := x.toRatio
    let (c, d) := y.toRatio
    let sum := a * d + c * b
    if sum == 0 then zero (x.isNegative && y.isNegative) else ofSignedRatio sum (b * d)

/-- The rounded product of two numbers. Zero and an infinity have none. -/
def mul : Binary64 → Binary64 → Binary64
  | .nan, _ | _, .nan => .nan
  | .infinite s, .infinite t => .infinite (s != t)
  | .infinite s, .finite t m _ | .finite t m _, .infinite s =>
    if m == 0 then .nan else .infinite (s != t)
  | x, y =>
    let (a, b) := x.toRatio
    let (c, d) := y.toRatio
    ofRatio (x.isNegative != y.isNegative) (a * c).natAbs (b * d)

def negate : Binary64 → Binary64
  | .nan => .nan
  | .infinite s => .infinite (!s)
  | .finite s m e => .finite (!s) m e

def isZero : Binary64 → Bool
  | .finite _ m _ => m == 0
  | _ => false

/-- Numerical equality: the zeros are equal, and nothing equals what is not a number. -/
def equals : Binary64 → Binary64 → Bool
  | .infinite s, .infinite t => s == t
  | .finite s m e, .finite t n f => (m == 0 && n == 0) || (s == t && m == n && e == f)
  | _, _ => false

def toInt? : Binary64 → Option Int
  | .finite s m e =>
    let sign : Int := if s then -1 else 1
    if 0 ≤ e then some (sign * (m * Nat.pow 2 e.toNat : Nat))
    else
      let unit := Nat.pow 2 (-e).toNat
      if m % unit == 0 then some (sign * (m / unit : Nat)) else none
  | _ => none

def equalsInt (x : Binary64) (n : Int) : Bool :=
  x.toInt? == some n

end Binary64

end Actionary
