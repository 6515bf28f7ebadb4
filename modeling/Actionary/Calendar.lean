/-!
# Dates and moments

Days of the calendar and moments of a day, with the offset of a time zone where one is given.
-/

namespace Actionary

def isLeapYear (year : Nat) : Bool :=
  (year % 4 == 0 && year % 100 != 0) || year % 400 == 0

/-- The number of days of a month; none for a number that is no month. -/
def daysInMonth (year month : Nat) : Nat :=
  if month == 2 then if isLeapYear year then 29 else 28
  else if month == 4 || month == 6 || month == 9 || month == 11 then 30
  else if 1 ≤ month && month ≤ 12 then 31
  else 0

/-- A number in decimal digits, with zeros in front up to the given width. -/
def padded (width n : Nat) : String :=
  let digits := Nat.toDigits 10 n
  String.ofList (List.replicate (width - digits.length) '0' ++ digits)

/-- A day of the calendar, in a year from 1 to 9999. -/
structure Date where
  year : Nat
  month : Nat
  day : Nat
deriving DecidableEq, Repr, Inhabited

namespace Date

/-- The day with the given numbers, if the calendar has it. -/
def of? (year month day : Nat) : Option Date :=
  if 1 ≤ year && year ≤ 9999 && 1 ≤ day && day ≤ daysInMonth year month then
    some ⟨year, month, day⟩
  else none

def text (d : Date) : String :=
  padded 4 d.year ++ "-" ++ padded 2 d.month ++ "-" ++ padded 2 d.day

def daysBeforeYear (year : Nat) : Nat :=
  let y := year - 1
  y * 365 + y / 4 - y / 100 + y / 400

def ordinal (d : Date) : Nat :=
  daysBeforeYear d.year + ((List.range d.month).map (daysInMonth d.year)).foldl (· + ·) 0 + d.day

end Date

/-- A moment of a day, with the offset of its time zone from universal time in minutes where one is
given. -/
structure Moment where
  date : Date
  hour : Nat
  minute : Nat
  second : Nat
  micros : Nat
  offset : Option Int
deriving DecidableEq, Repr, Inhabited

namespace Moment

/-- The moment with the given numbers, if a clock shows it and the offset is less than a day. -/
def of? (date : Date) (hour minute second micros : Nat) (offset : Option Int) : Option Moment :=
  if hour < 24 && minute < 60 && second < 60 && offset.all (·.natAbs < 24 * 60) then
    some ⟨date, hour, minute, second, micros, offset⟩
  else none

def offsetText (offset : Int) : String :=
  let n := offset.natAbs
  (if offset < 0 then "-" else "+") ++ padded 2 (n / 60) ++ ":" ++ padded 2 (n % 60)

def text (m : Moment) : String :=
  m.date.text ++ " " ++ padded 2 m.hour ++ ":" ++ padded 2 m.minute ++ ":" ++ padded 2 m.second ++
    (if m.micros == 0 then "" else "." ++ padded 6 m.micros) ++
    (match m.offset with
      | some offset => offsetText offset
      | none => "")

/-- The moment as minutes of universal time, where the time zone is known. -/
def universal? (m : Moment) : Option Int :=
  m.offset.map fun offset =>
    (m.date.ordinal : Int) * 1440 + m.hour * 60 + m.minute - offset

/-- Whether two moments are the same. Moments of known time zones are compared in universal time. -/
def same (a b : Moment) : Bool :=
  match a.universal?, b.universal? with
  | some x, some y => x == y && a.second == b.second && a.micros == b.micros
  | none, none => a == b
  | _, _ => false

end Moment

end Actionary
