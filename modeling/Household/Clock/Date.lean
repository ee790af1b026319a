import Household.Clock.TimeOfDay
import Household.Clock.Weekday

/-! # Dates and moments

Dates of the Gregorian calendar, extended to all years that are kept, and the moment made of a date
and a time of day.
-/

set_option autoImplicit false

namespace Household

def isLeapYear (year : Int) : Bool :=
  year % 4 == 0 && (year % 100 != 0 || year % 400 == 0)

def monthLength (year : Int) (month : Nat) : Nat :=
  match month with
  | 2 => if isLeapYear year then 29 else 28
  | 4 | 6 | 9 | 11 => 30
  | _ => 31

structure Date where
  year : Int
  month : Nat
  day : Nat
  month_pos : 1 ≤ month
  month_le : month ≤ 12
  day_pos : 1 ≤ day
  day_le : day ≤ monthLength year month
  deriving DecidableEq

namespace Date

def firstYear : Int := -262143

def lastYear : Int := 262142

def of? (year : Int) (month day : Nat) : Option Date :=
  if h : 1 ≤ month ∧ month ≤ 12 ∧ 1 ≤ day ∧ day ≤ monthLength year month then
    if firstYear ≤ year ∧ year ≤ lastYear then
      some ⟨year, month, day, h.1, h.2.1, h.2.2.1, h.2.2.2⟩
    else none
  else none

/-- Days since the first of January 1970. Years are counted from March, so that a leap day ends
its year, and in eras of 400 years, which all have the same length. -/
def dayNumber (d : Date) : Int :=
  let year := if d.month ≤ 2 then d.year - 1 else d.year
  let era := year / 400
  let yearOfEra := year % 400
  let month : Nat := (d.month + 9) % 12
  let dayOfYear : Int := ((153 * month + 2) / 5 + d.day - 1 : Nat)
  let dayOfEra := yearOfEra * 365 + yearOfEra / 4 - yearOfEra / 100 + dayOfYear
  era * 146097 + dayOfEra - 719468

def weekday (d : Date) : Weekday := Weekday.ofIndex ((d.dayNumber + 3) % 7).toNat

/-- Four digits, and a sign for years outside them. -/
def yearText (year : Int) : String :=
  let ds := TimeOfDay.fractionDigits 4 year.natAbs
  if 0 ≤ year ∧ year ≤ 9999 then ds else if year < 0 then "-" ++ ds else "+" ++ ds

def text (d : Date) : String :=
  yearText d.year ++ "-" ++ TimeOfDay.two d.month ++ "-" ++ TimeOfDay.two d.day

example : (of? 2026 10 20).map weekday = some .tuesday := by decide

example : of? 2023 2 29 = none := by decide

end Date

structure Moment where
  date : Date
  time : TimeOfDay
  deriving DecidableEq

def Moment.text (m : Moment) : String := m.date.text ++ "T" ++ m.time.text

end Household
