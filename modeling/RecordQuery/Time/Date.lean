/-!
# Calendar dates

Dates of the Gregorian calendar, extended in both directions, from the first day
of the year -262143 to the last day of the year 262142.  A date is kept as its
distance in days from the first of January 1970; years, months, weekdays, ordinal
days and weeks are computed from that number and back.
-/

set_option autoImplicit false

namespace RecordQuery

namespace Calendar

/-- Every fourth year is a leap year, but of the full centuries only every fourth. -/
def isLeap (year : Int) : Bool := year % 4 == 0 && (year % 100 != 0 || year % 400 == 0)

/-- The days of a year. -/
def daysInYear (year : Int) : Nat := if isLeap year then 366 else 365

/-- The lengths of the twelve months of a year. -/
def monthLengths (year : Int) : List Nat :=
  [31, if isLeap year then 29 else 28, 31, 30, 31, 30, 31, 31, 30, 31, 30, 31]

/-- The days of a year before one of its months, counted from 1. -/
def daysBeforeMonth (year : Int) (month : Nat) : Nat :=
  ((monthLengths year).take (month - 1)).foldl (· + ·) 0

/-- The number of the first day of a year. -/
def yearStart (year : Int) : Int :=
  365 * (year - 1) + (year - 1) / 4 - (year - 1) / 100 + (year - 1) / 400 - 719162

/-- The number of a day, given by its year and its place in the year, counted from 1. -/
def dayOfOrdinal (year : Int) (ordinal : Nat) : Int := yearStart year + ordinal - 1

/-- The number of a day, given by year, month and day of the month. -/
def dayOfDate (year : Int) (month day : Nat) : Int :=
  dayOfOrdinal year (daysBeforeMonth year month + day)

/-- The year of a day and the place of the day in it, counted from 1.  Four hundred
years have 146097 days; in them only the last century and the last year of a group
of four can be longer than the others. -/
def yearAndOrdinal (day : Int) : Int × Nat :=
  let elapsed := day + 719162
  let inCycle := (elapsed % 146097).toNat
  let century := min 3 (inCycle / 36524)
  let inCentury := inCycle - century * 36524
  let group := inCentury / 1461
  let inGroup := inCentury % 1461
  let single := min 3 (inGroup / 365)
  (400 * (elapsed / 146097) + (100 * century + 4 * group + single + 1 : Nat),
    inGroup - single * 365 + 1)

/-- The month and the day of the month at a place in a year, where `lengths` are the
lengths of the months from `month` on. -/
def monthAndDay (month : Nat) : List Nat → Nat → Nat × Nat
  | [], ordinal => (month, ordinal)
  | length :: lengths, ordinal =>
    if ordinal ≤ length then (month, ordinal)
    else monthAndDay (month + 1) lengths (ordinal - length)

/-- The day of the week, Monday being 0. -/
def weekday (day : Int) : Nat := ((day + 3) % 7).toNat

/-- The Monday of the week that holds the fourth of January: the first week of the
year in the count that begins weeks on Mondays and years on whole weeks. -/
def firstWeekStart (year : Int) : Int :=
  let fourth := dayOfOrdinal year 4
  fourth - weekday fourth

end Calendar

/-- The number of the earliest date. -/
def Date.first : Int := -96465292

/-- The number of the latest date. -/
def Date.last : Int := 95026236

/-- A calendar date. -/
structure Date where
  /-- Days since the first of January 1970. -/
  day : Int
  in_range : Date.first ≤ day ∧ day ≤ Date.last
deriving DecidableEq

namespace Date

open Calendar

/-- The date with a number, when it is in range. -/
def ofDay? (day : Int) : Option Date :=
  if h : first ≤ day ∧ day ≤ last then some ⟨day, h⟩ else none

/-- The date given by year, month and day of the month, when there is one. -/
def ofDate? (year : Int) (month day : Nat) : Option Date :=
  match (monthLengths year)[month - 1]? with
  | some length =>
    if 1 ≤ month ∧ 1 ≤ day ∧ day ≤ length then ofDay? (dayOfDate year month day) else none
  | none => none

/-- The date given by year and place in the year, when there is one. -/
def ofOrdinal? (year : Int) (ordinal : Nat) : Option Date :=
  if 1 ≤ ordinal ∧ ordinal ≤ daysInYear year then ofDay? (dayOfOrdinal year ordinal) else none

/-- The date given by a year counted in whole weeks, the number of the week and the
weekday from Monday, when there is one. -/
def ofWeek? (year : Int) (week weekday : Nat) : Option Date :=
  let start := firstWeekStart year
  let weeks := ((firstWeekStart (year + 1) - start) / 7).toNat
  if 1 ≤ week ∧ week ≤ weeks then ofDay? (start + 7 * (week - 1 : Nat) + weekday) else none

/-- So many days later, when that is in range. -/
def addDays? (date : Date) (days : Int) : Option Date := ofDay? (date.day + days)

/-- The year. -/
def year (date : Date) : Int := (yearAndOrdinal date.day).1

/-- The place in the year, counted from 1. -/
def ordinal (date : Date) : Nat := (yearAndOrdinal date.day).2

/-- The month and the day of the month. -/
def monthAndDay (date : Date) : Nat × Nat :=
  Calendar.monthAndDay 1 (monthLengths date.year) date.ordinal

/-- The month, counted from 1. -/
def month (date : Date) : Nat := date.monthAndDay.1

/-- The day of the month. -/
def dayOfMonth (date : Date) : Nat := date.monthAndDay.2

/-- The quarter of the year, counted from 1. -/
def quarter (date : Date) : Nat := (date.month + 2) / 3

/-- The day of the week, Monday being 0. -/
def weekday (date : Date) : Nat := Calendar.weekday date.day

/-- The year counted in whole weeks, and the number of the week in it: both are those
of the Thursday of the week. -/
def weekYearAndWeek (date : Date) : Int × Nat :=
  let (year, ordinal) := yearAndOrdinal (date.day - date.weekday + 3)
  (year, (ordinal - 1) / 7 + 1)

/-- The number of the week when weeks begin on the weekday `start` and the days before
the first such weekday are in week 0. -/
def weekFrom (date : Date) (start : Nat) : Nat :=
  (date.ordinal + 6 - (date.weekday + 7 - start) % 7) / 7

end Date

end RecordQuery
