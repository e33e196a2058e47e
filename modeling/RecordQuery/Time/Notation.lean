import RecordQuery.Text.Digits
import RecordQuery.Time.DateTime

/-!
# The written forms of spans and dates

A span is written `[days.]hours:minutes[:seconds[.fraction]]`, a point in time
`yyyy-MM-dd[ hours:minutes[:seconds[.fraction]]]`.  Reading has two steps.  The
first takes the longest piece of the given shape from the front of a text and keeps
its digits; it fails only when the text has another shape.  The second computes the
value of the digits and says which part is out of range.  Because a piece can be
put back together from its digits (`chars`), nothing that was read is lost.
-/

set_option autoImplicit false

namespace RecordQuery

open Text (digitRun digitsValue markedDigits)

/-- What is wrong with the digits of a span or a date. -/
inductive NotationFault where
  | fractionTooLong
  | numberTooLarge
  | clockOutOfRange
  | spanOutOfRange
  | noSuchDate
  | pointOutOfRange
deriving DecidableEq, Repr

/-- The text of a fault. -/
def NotationFault.message : NotationFault → String
  | .fractionTooLong => "Time span fraction has more than nine digits"
  | .numberTooLarge => "Numeric component is out of range"
  | .clockOutOfRange => "Time span component is out of range"
  | .spanOutOfRange => "Time span is out of range"
  | .noSuchDate => "Invalid calendar date"
  | .pointOutOfRange => "Date time is out of range"

/-- The number that digits write, up to the greatest signed number of 64 bits. -/
def boundedValue (digits : List Char) : Except NotationFault Nat :=
  let value := digitsValue digits
  if value ≤ 0x7FFFFFFFFFFFFFFF then .ok value else .error .numberTooLarge

/-! ## Spans -/

/-- The digits of a written span; a part that is not written has none. -/
structure SpanNotation where
  days : List Char
  hours : List Char
  minutes : List Char
  seconds : List Char
  fraction : List Char

namespace SpanNotation

/-- A mark and the digits after it, or nothing when there are no digits. -/
def markedChars (mark : Char) (digits : List Char) : List Char :=
  if digits = [] then [] else mark :: digits

/-- The text of a written span. -/
def chars (span : SpanNotation) : List Char :=
  (if span.days = [] then [] else span.days ++ ['.']) ++ span.hours ++ ':' :: span.minutes ++
    markedChars ':' span.seconds ++ markedChars '.' span.fraction

/-- The days of a span, which are digits followed by a point, more digits and a colon. -/
def readDays (text : List Char) : List Char × List Char :=
  let (digits, rest) := digitRun text
  match rest with
  | '.' :: rest =>
    let (hours, after) := digitRun rest
    if digits ≠ [] ∧ hours ≠ [] ∧ after.head? = some ':' then (digits, rest) else ([], text)
  | _ => ([], text)

/-- Reads the digits of a span from the front of a text.  Days count only with hours,
minutes and seconds after them, and only where `allowDays` holds; a fraction counts
only after seconds. -/
def read? (allowDays : Bool) (text : List Char) : Option (SpanNotation × List Char) :=
  let (days, afterDays) := if allowDays then readDays text else ([], text)
  let (hours, afterHours) := digitRun afterDays
  let (minutes, afterMinutes) := markedDigits ':' afterHours
  let (seconds, afterSeconds) := markedDigits ':' afterMinutes
  let (fraction, rest) := if seconds = [] then ([], afterSeconds) else markedDigits '.' afterSeconds
  if hours = [] ∨ minutes = [] ∨ (days ≠ [] ∧ seconds = []) then none
  else some (⟨days, hours, minutes, seconds, fraction⟩, rest)

/-- The span that the digits write.  A day has less than 24 hours, an hour less than 60
minutes, a minute less than 60 seconds, and a fraction at most nine digits. -/
def value (span : SpanNotation) : Except NotationFault TimeSpan := do
  if 9 < span.fraction.length then throw .fractionTooLong
  let nanoseconds := digitsValue span.fraction * Nat.pow 10 (9 - span.fraction.length)
  let days ← boundedValue span.days
  let hours ← boundedValue span.hours
  let minutes ← boundedValue span.minutes
  let seconds ← boundedValue span.seconds
  if 24 ≤ hours ∨ 60 ≤ minutes ∨ 60 ≤ seconds then throw .clockOutOfRange
  let total := days * 86400 + hours * 3600 + minutes * 60 + seconds
  match TimeSpan.ofNanoseconds? (total * 1000000000 + nanoseconds : Nat) with
  | some span => return span
  | none => throw .spanOutOfRange

end SpanNotation

/-! ## Points in time -/

/-- The digits of a written point in time. -/
structure PointNotation where
  year : List Char
  month : List Char
  day : List Char
  clock : Option SpanNotation

namespace PointNotation

/-- The text of a written point in time. -/
def chars (point : PointNotation) : List Char :=
  point.year ++ '-' :: point.month ++ '-' :: point.day ++
    match point.clock with
    | some clock => ' ' :: clock.chars
    | none => []

/-- Reads the digits of a point in time from the front of a text: four digits of a year,
two of a month, two of a day, and after a blank a time of day if there is one. -/
def read? (text : List Char) : Option (PointNotation × List Char) :=
  let (year, afterYear) := digitRun text
  let (month, afterMonth) := markedDigits '-' afterYear
  let (day, afterDay) := markedDigits '-' afterMonth
  if year.length = 4 ∧ month.length = 2 ∧ day.length = 2 then
    let dateOnly := some (⟨year, month, day, none⟩, afterDay)
    match afterDay with
    | ' ' :: rest =>
      match SpanNotation.read? false rest with
      | some (clock, rest) => some (⟨year, month, day, some clock⟩, rest)
      | none => dateOnly
    | _ => dateOnly
  else none

/-- The point in time that the digits write: midnight of the date, and the time of day
after it. -/
def value (point : PointNotation) : Except NotationFault DateTime := do
  let date ← match Date.ofDate? (digitsValue point.year) (digitsValue point.month)
      (digitsValue point.day) with
    | some date => pure date
    | none => throw .noSuchDate
  let midnight : DateTime := ⟨date, .midnight⟩
  match point.clock with
  | none => return midnight
  | some clock =>
    match midnight.add? (← clock.value) with
    | some point => return point
    | none => throw .pointOutOfRange

end PointNotation

end RecordQuery
