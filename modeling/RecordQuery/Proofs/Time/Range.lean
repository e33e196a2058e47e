import RecordQuery.Time.DateTime

/-!
# Sums and differences that are in range

A sum or difference of times is computed in parts: a time of day, a number of midnights passed, a
date.  Here its absence is said by the exact result alone.  A span is missing where the exact
number of nanoseconds is beyond the longest span.  A point in time is missing where the exact
number of nanoseconds since the start of 1970 is before the first date or behind the last one.

Days have 86400 seconds, and a point inside a leap second counts this second too.  Seen from such
a point the last date ends one second later (`DateTime.InRange`).
-/

set_option autoImplicit false

namespace RecordQuery

namespace TimeSpan

/-- There is a span of so many nanoseconds. -/
def InRange (nanoseconds : Int) : Prop := -limit ≤ nanoseconds ∧ nanoseconds ≤ limit

/-- A span is its whole seconds and less than a second, both with its sign. -/
theorem seconds_and_subsecond (span : TimeSpan) :
    span.seconds * 1000000000 + span.subsecond = span.nanoseconds ∧
    (0 ≤ span.nanoseconds → 0 ≤ span.subsecond ∧ span.subsecond < 1000000000) ∧
    (span.nanoseconds ≤ 0 → -1000000000 < span.subsecond ∧ span.subsecond ≤ 0) := by
  refine ⟨Int.tdiv_mul_add_tmod _ _, fun positive => ?_, fun negative => ?_⟩
  · exact ⟨Int.tmod_nonneg _ positive, Int.tmod_lt_of_pos _ (by decide)⟩
  · have mirrored : 0 ≤ (-span.nanoseconds).tmod 1000000000 :=
      Int.tmod_nonneg _ (Int.neg_nonneg_of_nonpos negative)
    rw [Int.neg_tmod] at mirrored
    exact ⟨Int.lt_tmod_of_pos _ (by decide), Int.nonpos_of_neg_nonneg mirrored⟩

theorem ofNanoseconds?_eq_none_iff {nanoseconds : Int} :
    ofNanoseconds? nanoseconds = none ↔ ¬ InRange nanoseconds := by
  unfold ofNanoseconds?
  split
  · next inside => simpa using (show InRange nanoseconds from inside)
  · next outside => simpa using (show ¬ InRange nanoseconds from outside)

end TimeSpan

theorem Date.addDays?_eq_none_iff {date : Date} {days : Int} :
    date.addDays? days = none ↔ date.day + days < first ∨ last < date.day + days := by
  unfold addDays? ofDay?
  split
  · next inside => simp only [reduceCtorEq, false_iff]; omega
  · next outside => simp only [true_iff]; omega

namespace TimeOfDay

/-- The nanoseconds since midnight, with those of a leap second that the time is inside of. -/
def nanoseconds (time : TimeOfDay) : Int := time.second * 1000000000 + time.nanosecond

/-- The nanoseconds that a time lies behind the second it is stored under by its leap second. -/
def leap (time : TimeOfDay) : Int := if time.isLeap then 1000000000 else 0

theorem ofNanoseconds_days (nanoseconds : Int) :
    (ofNanoseconds nanoseconds).2 = nanoseconds / 86400000000000 := by
  simp only [ofNanoseconds]
  omega

/-- The midnights that a sum passes: none if it stays in a leap second, else those of the exact
number of nanoseconds, which counts the leap second as long as the sum goes back. -/
theorem add_days_cases (time : TimeOfDay) (span : TimeSpan) :
    (time.isLeap = true ∧ -1000000000 < span.nanoseconds ∧
      time.nanosecond + span.nanoseconds < 2000000000 ∧ (time.add span).2 = 0) ∨
    (time.isLeap = true ∧ span.nanoseconds ≤ -1000000000 ∧
      (time.add span).2 = (time.nanoseconds + span.nanoseconds) / 86400000000000) ∨
    (time.isLeap = true ∧ 2000000000 ≤ time.nanosecond + span.nanoseconds ∧
      (time.add span).2 =
        (time.nanoseconds + span.nanoseconds - 1000000000) / 86400000000000) ∨
    (time.isLeap = false ∧
      (time.add span).2 = (time.nanoseconds + span.nanoseconds) / 86400000000000) := by
  obtain ⟨parts, after, before⟩ := span.seconds_and_subsecond
  have inside := time.nanosecond_lt
  simp only [add, nanoseconds]
  split
  · next leap =>
      have late : 1000000000 ≤ time.nanosecond := of_decide_eq_true leap
      split
      · next stays => exact .inl ⟨leap, by omega, by omega, rfl⟩
      · split
        · next back =>
            exact .inr (.inl ⟨leap, by omega, ofNanoseconds_days _⟩)
        · next on =>
            refine .inr (.inr (.inl ⟨leap, by omega, ?_⟩))
            rw [ofNanoseconds_days]
            congr 1
            omega
  · next plain => exact .inr (.inr (.inr ⟨by simpa using plain, ofNanoseconds_days _⟩))

end TimeOfDay

namespace DateTime

/-- The nanoseconds since the start of 1970. -/
def nanoseconds (point : DateTime) : Int :=
  point.date.day * 86400000000000 + point.time.nanoseconds

/-- There is a point at so many nanoseconds since the start of 1970, as they are counted from some
point: with the leap second, if this point is inside one. -/
def InRange (point : DateTime) (nanoseconds : Int) : Prop :=
  Date.first * 86400000000000 ≤ nanoseconds ∧
    nanoseconds < (Date.last + 1) * 86400000000000 + point.time.leap

/-- A sum is missing where it is out of range, and nowhere else. -/
theorem add?_eq_none_iff {point : DateTime} {span : TimeSpan} :
    point.add? span = none ↔ ¬ point.InRange (point.nanoseconds + span.nanoseconds) := by
  have first_le := point.date.in_range.1
  have le_last := point.date.in_range.2
  have second_lt := point.time.second_lt
  have nanosecond_lt := point.time.nanosecond_lt
  simp only [add?, Option.map_eq_none_iff, Date.addDays?_eq_none_iff, InRange, nanoseconds,
    TimeOfDay.leap]
  rcases point.time.add_days_cases span with
    ⟨leap, above, below, days⟩ | ⟨leap, back, days⟩ | ⟨leap, on, days⟩ | ⟨plain, days⟩
  · have late : 1000000000 ≤ point.time.nanosecond := of_decide_eq_true leap
    simp only [TimeOfDay.nanoseconds] at days ⊢
    simp only [days, leap, if_true]
    omega
  · have late : 1000000000 ≤ point.time.nanosecond := of_decide_eq_true leap
    simp only [TimeOfDay.nanoseconds] at days ⊢
    simp only [days, leap, if_true]
    omega
  · have late : 1000000000 ≤ point.time.nanosecond := of_decide_eq_true leap
    simp only [TimeOfDay.nanoseconds] at days ⊢
    simp only [days, leap, if_true]
    omega
  · simp only [TimeOfDay.nanoseconds] at days ⊢
    simp only [days, plain, Bool.false_eq_true, if_false]
    omega

/-- A difference is missing where it is out of range, and nowhere else. -/
theorem sub?_eq_none_iff {point : DateTime} {span : TimeSpan} :
    point.sub? span = none ↔ ¬ point.InRange (point.nanoseconds - span.nanoseconds) := by
  rw [sub?, add?_eq_none_iff, TimeSpan.nanoseconds_negate, Int.sub_eq_add_neg]

end DateTime

end RecordQuery
