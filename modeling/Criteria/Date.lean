import Criteria.Number.Text
/-!
Days of the Gregorian calendar, extended to all years from -262143 to 262142, and the ways to count
them: in the year, in the week, and in the weeks of a year.
-/

namespace Criteria

namespace Calendar

def isLeap (year : Int) : Bool := year % 4 = 0 && (year % 100 != 0 || year % 400 = 0)

def monthLength (year : Int) : Nat → Nat
  | 2 => if isLeap year then 29 else 28
  | 4 | 6 | 9 | 11 => 30
  | _ => 31

def yearLength (year : Int) : Nat := if isLeap year then 366 else 365

/-- The days of the year before the first of a month. -/
def daysBeforeMonth (year : Int) (month : Nat) : Nat :=
  (List.range (month - 1)).foldl (fun n m => n + monthLength year (m + 1)) 0

/-- The days from the first day of year 1 to the first day of a year. -/
def daysBeforeYear (year : Int) : Int :=
  let y := year - 1
  365 * y + y / 4 - y / 100 + y / 400

end Calendar

/-- A day of the calendar. -/
structure Date where
  year : Int
  month : Nat
  day : Nat
  year_range : -262143 ≤ year ∧ year ≤ 262142
  month_range : 1 ≤ month ∧ month ≤ 12
  day_range : 1 ≤ day ∧ day ≤ Calendar.monthLength year month
  deriving DecidableEq

namespace Date

/-- The day with these parts, if there is one. -/
def of? (year : Int) (month day : Nat) : Option Date :=
  if h : (-262143 ≤ year ∧ year ≤ 262142) ∧ (1 ≤ month ∧ month ≤ 12) ∧
      (1 ≤ day ∧ day ≤ Calendar.monthLength year month) then
    some ⟨year, month, day, h.1, h.2.1, h.2.2⟩
  else none

/-- The number of the day in its year, from 1 on. -/
def ordinal (d : Date) : Nat := Calendar.daysBeforeMonth d.year d.month + d.day

/-- The days from the first day of year 1. -/
def dayNumber (d : Date) : Int := Calendar.daysBeforeYear d.year + d.ordinal - 1

/-- The day of a number. Years are counted from March on, so that the leap day is the last of its
year; 400 of them have 146097 days. -/
def ofDayNumber? (n : Int) : Option Date :=
  let n := n + 306
  let cycleDay := n % 146097
  let yearInCycle :=
    (cycleDay - cycleDay / 1460 + cycleDay / 36524 - cycleDay / 146096) / 365
  let yearDay := (cycleDay - (365 * yearInCycle + yearInCycle / 4 - yearInCycle / 100)).toNat
  let month := (5 * yearDay + 2) / 153
  let day := yearDay - (153 * month + 2) / 5 + 1
  let year := n / 146097 * 400 + yearInCycle
  if month < 10 then of? year (month + 3) day else of? (year + 1) (month - 9) day

/-- The day of the week, Monday being 0. -/
def weekday (d : Date) : Nat := (d.dayNumber % 7).toNat

/-- The number of the week in the year when weeks start on Sunday and days before the first Sunday
are in week 0. -/
def weekFromSunday (d : Date) : Nat := (d.ordinal + 6 - (d.weekday + 1) % 7) / 7

/-- The number of the week in the year when weeks start on Monday and days before the first Monday
are in week 0. -/
def weekFromMonday (d : Date) : Nat := (d.ordinal + 6 - d.weekday) / 7

/-- The number of weeks of an ISO year: 53 if it starts on a Thursday or is a leap year that starts
on a Wednesday, else 52. -/
def isoWeeks (year : Int) : Nat :=
  let first := (Calendar.daysBeforeYear year % 7).toNat
  if first = 3 || (first = 2 && Calendar.isLeap year) then 53 else 52

/-- The ISO year and week: weeks start on Monday and belong to the year of their Thursday. -/
def isoWeek (d : Date) : Int × Nat :=
  let week := (d.ordinal + 9 - d.weekday) / 7
  if week = 0 then (d.year - 1, isoWeeks (d.year - 1))
  else if isoWeeks d.year < week then (d.year + 1, 1)
  else (d.year, week)

/-- The day after. -/
def next? (d : Date) : Option Date :=
  if d.day < Calendar.monthLength d.year d.month then of? d.year d.month (d.day + 1)
  else if d.month < 12 then of? d.year (d.month + 1) 1
  else of? (d.year + 1) 1 1

/-- The day before. -/
def previous? (d : Date) : Option Date :=
  if 1 < d.day then of? d.year d.month (d.day - 1)
  else if 1 < d.month then
    of? d.year (d.month - 1) (Calendar.monthLength d.year (d.month - 1))
  else of? (d.year - 1) 12 31

/-- A natural number with zeros in front up to a width. -/
def padded (width n : Nat) : List Char :=
  let ds := Decimal.natChars n
  List.replicate (width - ds.length) '0' ++ ds

/-- A year has four digits; outside of 0 to 9999 it has a sign. -/
def yearChars (year : Int) : List Char :=
  let ds := padded 4 year.natAbs
  if year < 0 then '-' :: ds else if 9999 < year then '+' :: ds else ds

/-- The day as year, month and day with hyphens. -/
def isoChars (d : Date) : List Char :=
  yearChars d.year ++ '-' :: padded 2 d.month ++ '-' :: padded 2 d.day

/-- The day as year, month and day with hyphens. -/
def iso (d : Date) : String := String.ofList d.isoChars

end Date

end Criteria
