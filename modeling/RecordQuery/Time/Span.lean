/-!
# Spans of time

A span is a whole number of nanoseconds, positive or negative, of at most
`2 ^ 63 - 1` milliseconds either way.  The bound is part of the type, so sums and
differences are partial while negation is total.
-/

set_option autoImplicit false

namespace RecordQuery

/-- The nanoseconds of the longest span. -/
def TimeSpan.limit : Int := 0x7FFFFFFFFFFFFFFF * 1000000

/-- A span of time. -/
structure TimeSpan where
  nanoseconds : Int
  in_range : -TimeSpan.limit ≤ nanoseconds ∧ nanoseconds ≤ TimeSpan.limit
deriving DecidableEq

namespace TimeSpan

/-- The span of so many nanoseconds, when there is one. -/
def ofNanoseconds? (nanoseconds : Int) : Option TimeSpan :=
  if h : -limit ≤ nanoseconds ∧ nanoseconds ≤ limit then some ⟨nanoseconds, h⟩ else none

/-- The span of so many days, when there is one. -/
def ofDays? (days : Int) : Option TimeSpan := ofNanoseconds? (days * 86400 * 1000000000)

/-- The empty span. -/
def zero : TimeSpan := ⟨0, by decide⟩

/-- The whole seconds of a span, rounded toward zero. -/
def seconds (span : TimeSpan) : Int := span.nanoseconds.tdiv 1000000000

/-- What is left beyond the whole seconds, with the sign of the span. -/
def subsecond (span : TimeSpan) : Int := span.nanoseconds.tmod 1000000000

/-- The span of the same length the other way. -/
def negate (span : TimeSpan) : TimeSpan :=
  ⟨-span.nanoseconds, by have := span.in_range; omega⟩

/-- The sum of two spans, unless it is out of range. -/
def add? (left right : TimeSpan) : Option TimeSpan :=
  ofNanoseconds? (left.nanoseconds + right.nanoseconds)

/-- The difference of two spans, unless it is out of range. -/
def sub? (left right : TimeSpan) : Option TimeSpan :=
  ofNanoseconds? (left.nanoseconds - right.nanoseconds)

instance : Ord TimeSpan := ⟨fun left right => compare left.nanoseconds right.nanoseconds⟩

@[simp] theorem nanoseconds_negate (span : TimeSpan) :
    span.negate.nanoseconds = -span.nanoseconds := rfl

/-- A number of nanoseconds gives a span of just that length, or none at all. -/
theorem ofNanoseconds?_eq_some {nanoseconds : Int} {span : TimeSpan} :
    ofNanoseconds? nanoseconds = some span ↔ span.nanoseconds = nanoseconds := by
  unfold ofNanoseconds?
  constructor
  · split
    · intro same
      cases same
      rfl
    · intro impossible
      cases impossible
  · rintro rfl
    simp [span.in_range]

end TimeSpan

end RecordQuery
