import RecordQuery.Time.DateTime

/-!
# A point in time from its parts

A text that follows a format gives numbers for some parts of a date and a time: a
year or only its last two digits, a month and a day or the place in the year or a
week and a weekday, an hour of twelve with its half of the day, and so on.  This
module collects such numbers, refuses a second value for a part that differs from
the first, and finds the point in time that they describe.  The date is built from
the first group of parts that is complete; every other part that is known has to
agree with it.
-/

set_option autoImplicit false

namespace RecordQuery

/-- Why a text and a format give no point in time. -/
inductive FormatFault where
  | outOfRange
  | impossible
  | notEnough
  | invalid
  | tooShort
  | tooLong
  | badFormat
deriving DecidableEq, Repr

/-- The text of a fault. -/
def FormatFault.message : FormatFault → String
  | .outOfRange => "input is out of range"
  | .impossible => "no possible date and time matching input"
  | .notEnough => "input is not enough for unique date and time"
  | .invalid => "input contains invalid characters"
  | .tooShort => "premature end of input"
  | .tooLong => "trailing input"
  | .badFormat => "bad or unsupported format string"

/-- The parts of a date and a time. -/
inductive TimeField where
  | year | century | yearOfCentury
  | weekYear | weekCentury | weekYearOfCentury
  | quarter | month | weekFromSunday | weekFromMonday | week | weekday | ordinal | day
  | halfDay | hourOfHalf | minute | second | nanosecond | epochSeconds | offset
deriving DecidableEq, Repr

/-- What is known of the parts. -/
abbrev TimeFields := TimeField → Option Int

namespace TimeFields

/-- Nothing is known. -/
def unknown : TimeFields := fun _ => none

/-- Learns a part; a known part must not change. -/
def learn (fields : TimeFields) (field : TimeField) (value : Int) :
    Except FormatFault TimeFields :=
  match fields field with
  | some known => if known = value then .ok fields else .error .impossible
  | none => .ok fun other => if other = field then some value else fields other

/-- A part that is known, or any value at all when it is not. -/
def agrees (fields : TimeFields) (field : TimeField) (value : Int) : Bool :=
  match fields field with
  | some known => known == value
  | none => true

/-- A year from the whole of it, its century and its place in the century.  The last two
digits alone stand for a year from 1970 to 2069. -/
def resolveYear (whole hundreds place : Option Int) : Except FormatFault (Option Int) :=
  match whole, hundreds, place with
  | whole, none, none => .ok whole
  | some whole, hundreds, place =>
    if whole < 0 then .error .impossible
    else if hundreds.getD (whole / 100) = whole / 100 ∧ place.getD (whole % 100) = whole % 100 then
      .ok (some whole)
    else .error .impossible
  | none, some hundreds, some place =>
    if hundreds * 100 + place ≤ 0x7FFFFFFF then .ok (some (hundreds * 100 + place))
    else .error .outOfRange
  | none, none, some place => .ok (some (place + if place < 70 then 2000 else 1900))
  | none, some _, none => .error .notEnough

/-- The known parts of century and year in century agree with a year; no year before 0
has them. -/
def agreesInCentury (fields : TimeFields) (hundreds place : TimeField) (year : Int) : Bool :=
  if 0 ≤ year then
    fields.agrees hundreds (year / 100) && fields.agrees place (year % 100)
  else (fields hundreds).isNone && (fields place).isNone

/-- The known parts agree with year, month and day of a date. -/
def agreesWithDate (fields : TimeFields) (date : Date) : Bool :=
  fields.agrees .year date.year && fields.agreesInCentury .century .yearOfCentury date.year &&
    fields.agrees .month date.month && fields.agrees .day date.dayOfMonth

/-- The known parts agree with the week of a date, in years of whole weeks. -/
def agreesWithWeek (fields : TimeFields) (date : Date) : Bool :=
  let (year, week) := date.weekYearAndWeek
  fields.agrees .weekYear year && fields.agreesInCentury .weekCentury .weekYearOfCentury year &&
    fields.agrees .week week && fields.agrees .weekday date.weekday

/-- The known parts agree with the place of a date in its year, by days and by weeks. -/
def agreesWithOrdinal (fields : TimeFields) (date : Date) : Bool :=
  fields.agrees .ordinal date.ordinal && fields.agrees .weekFromSunday (date.weekFrom 6) &&
    fields.agrees .weekFromMonday (date.weekFrom 0)

/-- The day of a year that lies on `weekday` in week `week`, where weeks begin on the
weekday `start`. -/
def dateOfWeek (year week weekday : Int) (start : Nat) : Except FormatFault Date := do
  let some newYear := Date.ofOrdinal? year 1 | throw .outOfRange
  let firstStart : Int := 1 + ((start : Int) - newYear.weekday) % 7
  let ordinal := firstStart + (week - 1) * 7 + (weekday - start) % 7
  if ordinal ≤ 0 then throw .impossible
  let some date := Date.ofOrdinal? year ordinal.toNat | throw .impossible
  return date

/-- A date, or the fault when there is none. -/
def orOutOfRange (date : Option Date) : Except FormatFault Date :=
  match date with
  | some date => .ok date
  | none => .error .outOfRange

/-- The date that the known parts describe. -/
def date (fields : TimeFields) : Except FormatFault Date := do
  let year ← resolveYear (fields .year) (fields .century) (fields .yearOfCentury)
  let weekYear ← resolveYear (fields .weekYear) (fields .weekCentury) (fields .weekYearOfCentury)
  let (date, agrees) ←
    match year, fields .month, fields .day with
    | some year, some month, some day => do
      let date ← orOutOfRange (Date.ofDate? year month.toNat day.toNat)
      pure (date, fields.agreesWithWeek date && fields.agreesWithOrdinal date)
    | _, _, _ =>
    match year, fields .ordinal with
    | some year, some ordinal => do
      let date ← orOutOfRange (Date.ofOrdinal? year ordinal.toNat)
      pure (date, fields.agreesWithDate date && fields.agreesWithWeek date &&
        fields.agreesWithOrdinal date)
    | _, _ =>
    match year, fields .weekFromSunday, fields .weekday with
    | some year, some week, some weekday => do
      let date ← dateOfWeek year week weekday 6
      pure (date, fields.agreesWithDate date && fields.agreesWithWeek date &&
        fields.agreesWithOrdinal date)
    | _, _, _ =>
    match year, fields .weekFromMonday, fields .weekday with
    | some year, some week, some weekday => do
      let date ← dateOfWeek year week weekday 0
      pure (date, fields.agreesWithDate date && fields.agreesWithWeek date &&
        fields.agreesWithOrdinal date)
    | _, _, _ =>
    match weekYear, fields .week, fields .weekday with
    | some weekYear, some week, some weekday => do
      let date ← orOutOfRange (Date.ofWeek? weekYear week.toNat weekday.toNat)
      pure (date, fields.agreesWithDate date && fields.agreesWithOrdinal date)
    | _, _, _ => throw .notEnough
  if agrees && fields.agrees .quarter date.quarter then return date else throw .impossible

/-- The time of day that the known parts describe.  Hour and minute have to be known, and
the second where the nanosecond is; the second 60 is a leap second. -/
def timeOfDay (fields : TimeFields) : Except FormatFault TimeOfDay := do
  let some half := fields .halfDay | throw .notEnough
  let some hour := fields .hourOfHalf | throw .notEnough
  let some minute := fields .minute | throw .notEnough
  let second := (fields .second).getD 0
  let nanosecond ← match fields .nanosecond, fields .second with
    | none, _ => pure 0
    | some nanosecond, some _ => pure nanosecond
    | some _, none => throw .notEnough
  let (second, nanosecond) :=
    if second = 60 then (59, nanosecond + 1000000000) else (second, nanosecond)
  let seconds := ((half * 12 + hour) * 60 + minute) * 60 + second
  if h : seconds.toNat < 86400 ∧ nanosecond.toNat < 2000000000 then
    return ⟨seconds.toNat, nanosecond.toNat, h.1, h.2⟩
  else throw .outOfRange

/-- The parts of a point in time, learned on top of what is known. -/
def learnPoint (fields : TimeFields) (point : DateTime) : Except FormatFault TimeFields := do
  let second : Int := point.time.second
  let fields ← if fields .second = some 60 then pure fields else fields.learn .second (second % 60)
  let fields ← fields.learn .year point.date.year
  let fields ← fields.learn .ordinal point.date.ordinal
  let hour := second / 3600
  let fields ← fields.learn .halfDay (hour / 12)
  let fields ← fields.learn .hourOfHalf (hour % 12)
  fields.learn .minute (second / 60 % 60)

/-- The point in time given by its distance from the start of 1970; where the known
second is 60, the point before which the leap second was inserted. -/
def pointOfEpoch (fields : TimeFields) (seconds : Int) : Except FormatFault DateTime := do
  let some point := DateTime.ofEpochSeconds? seconds | throw .outOfRange
  if fields .second = some 60 then
    match point.time.second % 60 with
    | 59 => return point
    | 0 =>
      let some earlier := DateTime.ofEpochSeconds? (seconds - 1) | throw .outOfRange
      return earlier
    | _ => throw .impossible
  else return point

/-- The point in time that the known parts describe: the date and the time of day, or else
what the distance from the start of 1970 says, as far as the other parts agree. -/
def dateTime (fields : TimeFields) : Except FormatFault DateTime := do
  match fields.date, fields.timeOfDay, fields .epochSeconds with
  | .ok date, .ok time, given =>
    let point : DateTime := ⟨date, time⟩
    match given with
    | none => return point
    | some seconds =>
      if seconds = point.epochSeconds ∨ (time.isLeap ∧ seconds = point.epochSeconds + 1) then
        return point
      else throw .impossible
  | date, time, some seconds =>
    let faults := [date.map fun _ => (), time.map fun _ => ()].filterMap fun
      | .error fault => some fault
      | .ok _ => none
    if .outOfRange ∈ faults then throw .outOfRange
    if .impossible ∈ faults then throw .impossible
    let fields ← fields.learnPoint (← fields.pointOfEpoch seconds)
    return ⟨← fields.date, ← fields.timeOfDay⟩
  | .error fault, _, none => throw fault
  | _, .error fault, none => throw fault

end TimeFields

end RecordQuery
