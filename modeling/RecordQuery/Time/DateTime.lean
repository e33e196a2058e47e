import RecordQuery.Time.Date
import RecordQuery.Time.Span

/-!
# Points in time

A date with a time of day.  The time is the second of the day and the nanoseconds
past it; nanoseconds from a thousand million on mark a leap second, the second
that is counted after the one it is stored under.  Adding a span counts no leap
seconds, except that a point inside a leap second is left properly.
-/

set_option autoImplicit false

namespace RecordQuery

/-- A time of day. -/
structure TimeOfDay where
  second : Nat
  nanosecond : Nat
  second_lt : second < 86400
  nanosecond_lt : nanosecond < 2000000000
deriving DecidableEq

namespace TimeOfDay

/-- Inside a leap second. -/
def isLeap (time : TimeOfDay) : Bool := 1000000000 ≤ time.nanosecond

/-- The start of the day. -/
def midnight : TimeOfDay := ⟨0, 0, by decide, by decide⟩

/-- The time at so many nanoseconds from a midnight, and the number of the day, counted
from that midnight, on which it falls. -/
def ofNanoseconds (nanoseconds : Int) : TimeOfDay × Int :=
  let seconds := nanoseconds / 1000000000
  (⟨(seconds % 86400).toNat, (nanoseconds % 1000000000).toNat, by omega, by omega⟩,
    seconds / 86400)

/-- Adds a span; the second part is the number of midnights passed.  From inside a leap
second, going on past its end first leaves the leap second, and going back by a second
or more starts from its end. -/
def add (time : TimeOfDay) (span : TimeSpan) : TimeOfDay × Int :=
  let start : Int := time.second * 1000000000 + time.nanosecond
  if time.isLeap then
    if h : span.seconds = 0 ∧ time.nanosecond + span.subsecond < 2000000000 then
      (⟨time.second, (time.nanosecond + span.subsecond).toNat, time.second_lt, by omega⟩, 0)
    else if span.seconds < 0 then ofNanoseconds (start + span.nanoseconds)
    else ofNanoseconds (start - 1000000000 + span.nanoseconds)
  else ofNanoseconds (start + span.nanoseconds)

/-- The nanoseconds from `right` to `left`, both on one day.  A leap second that lies
wholly between the two counts. -/
def distance (left right : TimeOfDay) : Int :=
  let passed : Int :=
    if right.second < left.second ∧ right.isLeap then 1
    else if left.second < right.second ∧ left.isLeap then -1
    else 0
  (left.second - right.second + passed) * 1000000000 + (left.nanosecond - right.nanosecond)

theorem distance_bounds (left right : TimeOfDay) :
    -88402000000000 ≤ left.distance right ∧ left.distance right ≤ 88402000000000 := by
  have := left.second_lt
  have := left.nanosecond_lt
  have := right.second_lt
  have := right.nanosecond_lt
  unfold distance
  dsimp only
  split
  · omega
  · split <;> omega

end TimeOfDay

/-- A point in time. -/
structure DateTime where
  date : Date
  time : TimeOfDay
deriving DecidableEq

namespace DateTime

/-- Seconds since the start of 1970; in a leap second those of the second before it. -/
def epochSeconds (point : DateTime) : Int := point.date.day * 86400 + point.time.second

/-- The point at so many seconds since the start of 1970, when it is in range. -/
def ofEpochSeconds? (seconds : Int) : Option DateTime :=
  (Date.ofDay? (seconds / 86400)).map fun date =>
    ⟨date, ⟨(seconds % 86400).toNat, 0, by omega, by decide⟩⟩

/-- Adds a span, unless the result is out of range. -/
def add? (point : DateTime) (span : TimeSpan) : Option DateTime :=
  let (time, days) := point.time.add span
  (point.date.addDays? days).map fun date => ⟨date, time⟩

/-- Takes a span away, unless the result is out of range. -/
def sub? (point : DateTime) (span : TimeSpan) : Option DateTime := point.add? span.negate

/-- The span from `right` to `left`; it is always in range. -/
def since (left right : DateTime) : TimeSpan where
  nanoseconds := (left.date.day - right.date.day) * 86400000000000 + left.time.distance right.time
  in_range := by
    have hleft := left.date.in_range
    have hright := right.date.in_range
    have htime := left.time.distance_bounds right.time
    simp only [Date.first, Date.last] at hleft hright
    simp only [TimeSpan.limit]
    omega

/-- Points are ordered by date, then second, then nanosecond. -/
instance : Ord DateTime where
  compare left right :=
    (compare left.date.day right.date.day).then <|
      (compare left.time.second right.time.second).then <|
        compare left.time.nanosecond right.time.nanosecond

end DateTime

end RecordQuery
