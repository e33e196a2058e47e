import RecordQuery.Proofs.Grammar.Word
import RecordQuery.Proofs.Time.SpanForms
import RecordQuery.Time.Reading

/-!
# Reading by the formats with a `T`

A format is read step by step, and what one step does is known from the text in front of it: digits
of the right number are stored, whatever stands behind them (`FormatItem.read_number`), and a mark
is passed if it is there.  So the formats with a `T` read a date up to the `T` (`readAll_longDate`).
A text without the `T` has a fault there, and in the other case the clock behind it is read too.
-/

set_option autoImplicit false

namespace RecordQuery

open Text (digitsValue AllDigits)

/-- Digits, and just so many. -/
structure Text.DigitsOf (count : Nat) (text : List Char) : Prop where
  all : AllDigits text
  length : text.length = count

open Text (DigitsOf)

/-! ## Fields -/

namespace TimeFields

variable {fields : TimeFields} {field : TimeField} {value : Int}

/-- The parts that are known with one more. -/
def extend (fields : TimeFields) (field : TimeField) (value : Int) : TimeFields :=
  fun other => if other = field then some value else fields other

theorem learn_of_unknown (isUnknown : fields field = none) :
    fields.learn field value = .ok (fields.extend field value) := by
  rw [learn, isUnknown]
  rfl

end TimeFields

namespace NumberDirective

variable {directive : NumberDirective} {fields : TimeFields} {field : TimeField} {value : Int}

/-- A number inside the bounds is stored in a field that is not known. -/
theorem store_of_unknown (entries : directive.entries value = [(field, value)])
    (inside : directive.bounds.1 ≤ value ∧ value ≤ directive.bounds.2)
    (isUnknown : fields field = none) :
    directive.store value fields = .ok (fields.extend field value) := by
  have bounded : ¬(value < directive.bounds.1 ∨ directive.bounds.2 < value) := by omega
  simp only [store, if_neg bounded, entries, List.foldlM_cons, List.foldlM_nil,
    TimeFields.learn_of_unknown isUnknown]
  rfl

/-- An hour is stored as a half of the day and an hour in it. -/
theorem store_hour (inside : 0 ≤ value ∧ value < 24) (noHalf : fields .halfDay = none)
    (noHour : fields .hourOfHalf = none) :
    NumberDirective.hour.store value fields =
      .ok ((fields.extend .halfDay (value / 12)).extend .hourOfHalf (value % 12)) := by
  have bounded : ¬(value < 0 ∨ 23 < value) := by omega
  have noHour' : fields.extend .halfDay (value / 12) .hourOfHalf = none := noHour
  simp only [store, bounds, if_neg bounded, entries, List.foldlM_cons, List.foldlM_nil,
    TimeFields.learn_of_unknown noHalf]
  exact congrArg (· >>= pure) (TimeFields.learn_of_unknown noHour')

end NumberDirective

/-! ## Steps -/

namespace FormatItem

variable {item : FormatItem} {items : List FormatItem} {text digits tail : List Char}
  {fields : TimeFields} {directive : NumberDirective} {c : Char}

/-- Reads the steps of a format in turn. -/
def readAll (items : List FormatItem) (text : List Char) (fields : TimeFields) :
    Except FormatFault (TimeFields × List Char) :=
  items.foldlM (fun (fields, text) item => read text fields item) (fields, text)

theorem readAll_cons : readAll (item :: items) text fields =
    (read text fields item >>= fun after => readAll items after.2 after.1) := List.foldlM_cons

theorem readDigits_append {most : Nat} (all : AllDigits digits) (some : digits ≠ [])
    (short : digits.length ≤ 9) (width : digits.length = most ∨ digits.length ≤ most ∧ tail = []) :
    readDigits 1 (.some most) (digits ++ tail) = .ok (digitsValue digits, tail) := by
  have positive := List.length_pos_iff.2 some
  have long : ¬ Text.byteLength (digits ++ tail) < 1 := by
    obtain ⟨c, more, rfl⟩ := List.exists_cons_of_ne_nil some
    have size := Char.utf8Size_pos c
    simp only [List.cons_append, Text.byteLength]
    omega
  have front : (digits ++ tail).take most = digits := by
    rcases width with rfl | ⟨fits, rfl⟩
    · exact List.take_left
    · rw [List.append_nil, List.take_of_length_le fits]
  have run : digits.takeWhile Char.isDigit = digits := List.takeWhile_eq_self_iff.2 all
  have small : ¬ 0x8000000000000000 ≤ digitsValue digits := by
    have bounded := digitsValue_lt all
    have most : 10 ^ digits.length ≤ 10 ^ 9 := Nat.pow_le_pow_right (by decide) short
    omega
  simp only [readDigits, if_neg long, Option.getD_some, front, run, if_neg small,
    if_neg (Nat.not_lt.2 positive), List.drop_left]

/-- Digits of the right number are stored, whatever stands behind them. -/
theorem read_number (all : AllDigits digits) (some : digits ≠ []) (short : digits.length ≤ 9)
    (width : directive.width = .some digits.length) :
    read (digits ++ tail) fields (.number directive) =
      (directive.store (digitsValue digits) fields >>= fun fields => .ok (fields, tail)) := by
  have digitsRead : readDigits 1 (.some digits.length) (digits ++ tail) =
      .ok (digitsValue digits, tail) := readDigits_append all some short (.inl rfl)
  have numberRead : readNumber directive (digits ++ tail) = .ok (digitsValue digits, tail) := by
    obtain ⟨c, more, rfl⟩ := List.exists_cons_of_ne_nil some
    have isDigit := all c List.mem_cons_self
    have visible := Text.not_isBlank_of_isDigit isDigit
    have left : Text.trimStart (c :: more ++ tail) = c :: more ++ tail :=
      List.dropWhile_cons_of_neg (by simp [visible])
    rw [readNumber, left]
    split
    · next same =>
      cases (List.cons.inj same).1
      cases isDigit
    · next same =>
      cases (List.cons.inj same).1
      cases isDigit
    · rw [width, digitsRead]
  simp only [read, readSimple, numberRead]
  rfl

theorem readAll_number {count : Nat} (digitsOf : DigitsOf count digits) (positive : 0 < count)
    (short : count ≤ 9) (width : directive.width = .some count) (items : List FormatItem)
    (tail : List Char) (fields : TimeFields) :
    readAll (.number directive :: items) (digits ++ tail) fields =
      (directive.store (digitsValue digits) fields >>= readAll items tail) := by
  obtain ⟨all, rfl⟩ := digitsOf
  rw [readAll_cons, read_number all (List.length_pos_iff.1 positive) short width]
  cases directive.store (digitsValue digits) fields <;> rfl

theorem readAll_mark : readAll (.literal [c] :: items) (c :: tail) fields =
    readAll items tail fields := by
  have long : ¬ Text.byteLength (c :: tail) < Text.byteLength [c] := by
    simp only [Text.byteLength]
    omega
  have passes : read (c :: tail) fields (.literal [c]) = .ok (fields, tail) := by
    simp [read, readSimple, if_neg long]
  rw [readAll_cons, passes]
  rfl

/-- A mark that is missing ends the reading. -/
theorem readAll_mark_ne_ok (missing : tail.head? ≠ some c) (result : TimeFields × List Char) :
    readAll (.literal [c] :: items) tail fields ≠ .ok result := by
  rw [readAll_cons]
  intro reads
  obtain ⟨after, passes, _⟩ := bind_eq_ok_iff.1 reads
  simp only [read, readSimple] at passes
  split at passes
  · cases passes
  split at passes
  · next front =>
    cases tail with
    | nil => cases front
    | cons d more =>
        simp only [List.isPrefixOf_cons_cons, Bool.and_eq_true, beq_iff_eq] at front
        exact missing (by rw [front.1]; rfl)
  · cases passes

end FormatItem

/-! ## Dates -/

/-- A time of day in numbers. -/
structure Clock where
  hour : Nat
  minute : Nat
  second : Nat
  nanosecond : Nat

namespace Clock

/-- The start of the day. -/
def midnight : Clock := ⟨0, 0, 0, 0⟩

/-- The time of day with these numbers, when they are in range. -/
def time? (clock : Clock) : Option TimeOfDay :=
  if inside : clock.hour < 24 ∧ clock.minute < 60 ∧ clock.second < 60 ∧
      clock.nanosecond < 1000000000 then
    some ⟨clock.hour * 3600 + clock.minute * 60 + clock.second, clock.nanosecond, by omega,
      by omega⟩
  else none

theorem inside_of_time? {clock : Clock} {time : TimeOfDay} (found : clock.time? = some time) :
    clock.hour < 24 ∧ clock.minute < 60 ∧ clock.second < 60 ∧ clock.nanosecond < 1000000000 := by
  unfold time? at found
  split at found
  · next inside => exact inside
  · cases found

end Clock

namespace TimeFields

/-- What is known from the numbers of a date and of a time of day without seconds, and from those
of a second and a nanosecond if they are there. -/
def known (year month day : Nat) (clock : Clock) (second? nanosecond? : Option Int) : TimeFields
  | .year => some year
  | .month => some month
  | .day => some day
  | .halfDay => some (clock.hour / 12 : Int)
  | .hourOfHalf => some (clock.hour % 12 : Int)
  | .minute => some clock.minute
  | .second => second?
  | .nanosecond => nanosecond?
  | _ => none

variable {year month day : Nat} {clock : Clock} {second? nanosecond? : Option Int} {date : Date}
  {time : TimeOfDay}

theorem date_known (found : Date.ofDate? year month day = some date) :
    (known year month day clock second? nanosecond?).date = .ok date := by
  have week : (known year month day clock second? nanosecond?).agreesWithWeek date = true := by
    simp [agreesWithWeek, agreesInCentury, agrees, known]
  have ordinal : (known year month day clock second? nanosecond?).agreesWithOrdinal date = true :=
    rfl
  have quarter : (known year month day clock second? nanosecond?).agrees .quarter date.quarter =
    true := rfl
  simp only [TimeFields.date, known, resolveYear, Int.toNat_natCast, found, orOutOfRange, bind,
    Except.bind, pure, Except.pure, week, ordinal, quarter, Bool.and_self, if_true]

/-- Hour and minute with a second and a nanosecond, or without where these are 0, make a time of
day. -/
theorem timeOfDay_of_known {fields : TimeFields}
    (half : fields .halfDay = some (clock.hour / 12 : Int))
    (hour : fields .hourOfHalf = some (clock.hour % 12 : Int))
    (minute : fields .minute = some ↑clock.minute) (second : (fields .second).getD 0 = clock.second)
    (nanosecond : (fields .nanosecond).getD 0 = clock.nanosecond)
    (whole : fields .second = none → fields .nanosecond = none)
    (found : clock.time? = some time) : fields.timeOfDay = .ok time := by
  unfold Clock.time? at found
  split at found
  · next inside =>
    cases found
    have unleaped : (clock.second : Int) ≠ 60 := by omega
    have finish : ∀ {fraction : Int}, fraction = clock.nanosecond →
        timeOfDay fields = (if inside : (((clock.hour / 12 * 12 + clock.hour % 12 : Int) * 60 +
            clock.minute) * 60 + clock.second).toNat < 86400 ∧ fraction.toNat < 2000000000 then
          .ok ⟨_, _, inside.1, inside.2⟩ else .error .outOfRange) →
        timeOfDay fields = .ok ⟨clock.hour * 3600 + clock.minute * 60 + clock.second,
          clock.nanosecond, by omega, by omega⟩ := by
      rintro _ rfl builds
      rw [builds, dif_pos ⟨by omega, by omega⟩]
      simp only [Except.ok.injEq, TimeOfDay.mk.injEq]
      omega
    cases isNanosecond : fields .nanosecond with
    | none =>
        rw [isNanosecond] at nanosecond
        refine finish nanosecond ?_
        simp only [timeOfDay, half, hour, minute, second, isNanosecond, if_neg unleaped]
        rfl
    | some fraction =>
        rw [isNanosecond] at nanosecond whole
        obtain ⟨_, isSecond⟩ := Option.ne_none_iff_exists'.1 fun none =>
          Option.some_ne_none _ (whole none)
        rw [isSecond] at second
        refine finish nanosecond ?_
        simp only [timeOfDay, half, hour, minute, second, isSecond, isNanosecond, if_neg unleaped]
        rfl
  · cases found

theorem dateTime_known (isDate : Date.ofDate? year month day = some date)
    (isTime : clock.time? = some time) (second : second?.getD 0 = ↑clock.second)
    (nanosecond : nanosecond?.getD 0 = ↑clock.nanosecond)
    (whole : second? = none → nanosecond? = none) :
    (known year month day clock second? nanosecond?).dateTime = .ok ⟨date, time⟩ := by
  have builds : (known year month day clock second? nanosecond?).timeOfDay = .ok time :=
    timeOfDay_of_known rfl rfl rfl second nanosecond whole isTime
  simp only [dateTime, date_known isDate, builds]
  rfl

end TimeFields

namespace Calendar

/-- The calendar has this date. -/
def IsDate (year : Int) (month day : Nat) : Prop :=
  1 ≤ month ∧ 1 ≤ day ∧ ∃ length, (monthLengths year)[month - 1]? = some length ∧ day ≤ length

theorem monthLengths_le (year : Int) : ∀ length ∈ monthLengths year, length ≤ 31 := by
  simp only [monthLengths, List.forall_mem_cons, List.not_mem_nil, false_implies, implies_true,
    and_true]
  split <;> omega

theorem IsDate.bounds {year : Int} {month day : Nat} (isDate : IsDate year month day) :
    month ≤ 12 ∧ day ≤ 31 := by
  obtain ⟨_, _, length, isLength, most⟩ := isDate
  have place := (List.getElem?_eq_some_iff.1 isLength).1
  have short := monthLengths_le year length (List.mem_of_getElem? isLength)
  simp only [monthLengths, List.length_cons, List.length_nil] at place
  omega

theorem daysBeforeMonth_le (year : Int) (month : Nat) : daysBeforeMonth year month ≤ 372 := by
  have sums : ∀ (lengths : List Nat) (before : Nat), (∀ length ∈ lengths, length ≤ 31) →
      lengths.foldl (· + ·) before ≤ before + 31 * lengths.length := by
    intro lengths
    induction lengths with
    | nil => simp
    | cons length lengths ih =>
        intro before short
        have first := short length List.mem_cons_self
        have others := ih (before + length) fun other mem =>
          short other (List.mem_cons_of_mem _ mem)
        simp only [List.foldl_cons, List.length_cons]
        omega
  have short : ∀ length ∈ (monthLengths year).take (month - 1), length ≤ 31 :=
    fun length mem => monthLengths_le year length (List.mem_of_mem_take mem)
  have most := sums _ 0 short
  have twelve : ((monthLengths year).take (month - 1)).length ≤ 12 :=
    (List.length_take_le' ..).trans (Nat.le_of_eq rfl)
  unfold daysBeforeMonth
  omega

end Calendar

/-- Every date of the calendar with a year of four digits can be represented. -/
theorem Date.isSome_ofDate?_iff {year month day : Nat} (fourDigits : year < 10000) :
    (ofDate? year month day).isSome ↔ Calendar.IsDate year month day := by
  constructor
  · intro found
    unfold ofDate? at found
    split at found
    · next length isLength =>
      split at found
      · next inside => exact ⟨inside.1, inside.2.1, length, isLength, inside.2.2⟩
      · cases found
    · cases found
  · intro isDate
    have bounds := isDate.bounds
    have before := Calendar.daysBeforeMonth_le year month
    obtain ⟨monthLeast, dayLeast, length, isLength, most⟩ := isDate
    have inside : first ≤ Calendar.dayOfDate year month day ∧
        Calendar.dayOfDate year month day ≤ last := by
      simp only [first, last, Calendar.dayOfDate, Calendar.dayOfOrdinal, Calendar.yearStart]
      omega
    simp only [ofDate?, isLength]
    rw [if_pos ⟨monthLeast, dayLeast, most⟩, ofDay?, dif_pos inside]
    rfl

namespace FormatItem

section Dates

variable {items : List FormatItem} {year month day tail : List Char} {date : Date}
  (isYear : DigitsOf 4 year) (isMonth : DigitsOf 2 month) (isDay : DigitsOf 2 day)
include isYear isMonth isDay

/-- A date is stored number by number, and the reading goes on behind it. -/
theorem readAll_longDate (items : List FormatItem) (tail : List Char) (fields : TimeFields) :
    readAll (longDate ++ items) (year ++ '-' :: (month ++ '-' :: (day ++ tail))) fields =
      (NumberDirective.year.store (digitsValue year) fields >>= fun fields =>
        NumberDirective.month.store (digitsValue month) fields >>= fun fields =>
          NumberDirective.day.store (digitsValue day) fields >>= readAll items tail) := by
  simp only [longDate, List.cons_append, List.nil_append]
  rw [readAll_number isYear (by decide) (by decide) rfl]
  refine bind_congr fun fields => ?_
  rw [readAll_mark, readAll_number isMonth (by decide) (by decide) rfl]
  refine bind_congr fun fields => ?_
  rw [readAll_mark, readAll_number isDay (by decide) (by decide) rfl]

/-- Without the `T` behind the date nothing is read. -/
theorem readAll_longDate_ne_ok (missing : tail.head? ≠ some 'T') (fields : TimeFields)
    (result : TimeFields × List Char) :
    readAll (longDate ++ .literal ['T'] :: items)
      (year ++ '-' :: (month ++ '-' :: (day ++ tail))) fields ≠ .ok result := by
  rw [readAll_longDate isYear isMonth isDay]
  intro reads
  obtain ⟨_, _, reads⟩ := bind_eq_ok_iff.1 reads
  obtain ⟨_, _, reads⟩ := bind_eq_ok_iff.1 reads
  obtain ⟨_, _, reads⟩ := bind_eq_ok_iff.1 reads
  exact readAll_mark_ne_ok missing result reads

omit isYear isMonth isDay

/-- What is known from a date. -/
def dateFields (year month day : Nat) : TimeFields :=
  ((TimeFields.unknown.extend .year year).extend .month month).extend .day day

include isYear isMonth isDay in
/-- The numbers of a date are stored. -/
theorem readAll_longDate_ok
    (found : Date.ofDate? (digitsValue year) (digitsValue month) (digitsValue day) = some date)
    (items : List FormatItem) (tail : List Char) :
    readAll (longDate ++ items) (year ++ '-' :: (month ++ '-' :: (day ++ tail)))
        TimeFields.unknown =
      readAll items tail (dateFields (digitsValue year) (digitsValue month) (digitsValue day)) := by
  have yearMost := digitsValue_lt isYear.all
  rw [isYear.length] at yearMost
  have isDate := (Date.isSome_ofDate?_iff yearMost).1 (Option.isSome_iff_exists.2 ⟨date, found⟩)
  obtain ⟨monthMost, dayMost⟩ := isDate.bounds
  obtain ⟨monthLeast, dayLeast, _⟩ := isDate
  have storesYear : NumberDirective.year.store (digitsValue year) TimeFields.unknown = .ok _ :=
    NumberDirective.store_of_unknown rfl (by simp only [NumberDirective.bounds]; omega) rfl
  have storesMonth : NumberDirective.month.store (digitsValue month)
      (TimeFields.unknown.extend .year (digitsValue year)) = .ok _ :=
    NumberDirective.store_of_unknown rfl (by simp only [NumberDirective.bounds]; omega) rfl
  have storesDay : NumberDirective.day.store (digitsValue day)
      ((TimeFields.unknown.extend .year (digitsValue year)).extend .month (digitsValue month)) =
        .ok _ :=
    NumberDirective.store_of_unknown rfl (by simp only [NumberDirective.bounds]; omega) rfl
  rw [readAll_longDate isYear isMonth isDay]
  simp only [storesYear, storesMonth, storesDay, bind, Except.bind]
  rfl

end Dates

/-! ## Times of day -/

section Clocks

variable {year month day : Nat} {clock : Clock} {items : List FormatItem}
  {hour minute second fraction : List Char}

/-- Hour and minute are stored behind the date. -/
theorem readAll_hourAndMinute (isHour : DigitsOf 2 hour) (isMinute : DigitsOf 2 minute)
    (hourMost : digitsValue hour < 24) (minuteMost : digitsValue minute < 60)
    (isHourOf : clock.hour = digitsValue hour) (isMinuteOf : clock.minute = digitsValue minute)
    (items : List FormatItem) (tail : List Char) :
    readAll (.number .hour :: .literal [':'] :: .number .minute :: items)
        (hour ++ ':' :: (minute ++ tail)) (dateFields year month day) =
      readAll items tail (TimeFields.known year month day clock none none) := by
  have storesHour : NumberDirective.hour.store (digitsValue hour) (dateFields year month day) =
      .ok _ := NumberDirective.store_hour (by omega) rfl rfl
  have storesMinute : NumberDirective.minute.store (digitsValue minute)
      (((dateFields year month day).extend .halfDay (digitsValue hour / 12)).extend .hourOfHalf
        (digitsValue hour % 12)) = .ok _ :=
    NumberDirective.store_of_unknown rfl (by simp only [NumberDirective.bounds]; omega) rfl
  have learned : ((((dateFields year month day).extend .halfDay (digitsValue hour / 12)).extend
      .hourOfHalf (digitsValue hour % 12)).extend .minute (digitsValue minute)) =
      TimeFields.known year month day clock none none := by
    funext field
    cases field <;> simp [TimeFields.extend, TimeFields.known, dateFields, TimeFields.unknown,
      isHourOf, isMinuteOf]
  rw [readAll_number isHour (by decide) (by decide) rfl]
  simp only [storesHour, bind, Except.bind]
  rw [readAll_mark, readAll_number isMinute (by decide) (by decide) rfl]
  simp only [storesMinute, bind, Except.bind]
  rw [learned]

/-- A second is stored behind hour and minute. -/
theorem readAll_second (isSecond : DigitsOf 2 second) (secondMost : digitsValue second < 60)
    (isSecondOf : clock.second = digitsValue second) (items : List FormatItem) (tail : List Char) :
    readAll (.number .second :: items) (second ++ tail)
        (TimeFields.known year month day clock none none) =
      readAll items tail (TimeFields.known year month day clock (some clock.second) none) := by
  have stores : NumberDirective.second.store (digitsValue second)
      (TimeFields.known year month day clock none none) = .ok _ :=
    NumberDirective.store_of_unknown rfl (by simp only [NumberDirective.bounds]; omega) rfl
  have learned : (TimeFields.known year month day clock none none).extend .second
      (digitsValue second) = TimeFields.known year month day clock (some clock.second) none := by
    funext field
    cases field <;> simp [TimeFields.extend, TimeFields.known, isSecondOf]
  rw [readAll_number isSecond (by decide) (by decide) rfl]
  simp only [stores, bind, Except.bind]
  rw [learned]

theorem readFraction_digits {digits : List Char} (written : Text.Digits digits)
    (short : digits.length ≤ 9) :
    readFraction digits = .ok ((digitsValue digits * 10 ^ (9 - digits.length) : Nat), []) := by
  have read : readDigits 1 (some 9) (digits ++ []) = .ok (digitsValue digits, []) :=
    readDigits_append written.all written.some short (.inr ⟨short, rfl⟩)
  rw [List.append_nil] at read
  simp [readFraction, read, bind, Except.bind, pure, Except.pure]

/-- A fraction of a second is stored if it is there. -/
theorem readAll_fraction {second? : Option Int}
    (isFraction : TimeSpan.Fraction fraction clock.nanosecond)
    (less : clock.nanosecond < 1000000000) :
    ∃ nanosecond? : Option Int, nanosecond?.getD 0 = clock.nanosecond ∧
      readAll [.fraction] fraction (TimeFields.known year month day clock second? none) =
        .ok (TimeFields.known year month day clock second? nanosecond?, []) := by
  generalize same : clock.nanosecond = nanosecond at isFraction less
  cases isFraction with
  | none => exact ⟨none, rfl, rfl⟩
  | @point digits written short =>
      have digitsRead := readFraction_digits written short
      generalize digitsValue digits * 10 ^ (9 - digits.length) = value at digitsRead less
      have stores : NumberDirective.nanosecond.store value
          (TimeFields.known year month day clock second? none) = .ok _ :=
        NumberDirective.store_of_unknown rfl (by simp only [NumberDirective.bounds]; omega) rfl
      have learned : (TimeFields.known year month day clock second? none).extend .nanosecond value =
          TimeFields.known year month day clock second? (some ↑value) := by
        funext field
        cases field <;> simp [TimeFields.extend, TimeFields.known]
      have reads : read ('.' :: digits) (TimeFields.known year month day clock second? none)
          .fraction = .ok (TimeFields.known year month day clock second? (some ↑value), []) := by
        simp only [read, readSimple, digitsRead, bind, Except.bind, stores, learned]
        rfl
      refine ⟨some ↑value, rfl, ?_⟩
      rw [readAll_cons, reads]
      rfl

end Clocks

end FormatItem

/-! ## Formats -/

namespace DateTime

open FormatItem

variable {items : List FormatItem} {format text : List Char} {fields : TimeFields}
  {point : DateTime}

theorem ofFormat_eq_ok (steps : ofChars format = items)
    (reads : readAll items text TimeFields.unknown = .ok (fields, []))
    (builds : fields.dateTime = .ok point) : ofFormat format text = .ok point := by
  have read : TimeFields.ofText format text = .ok fields := bind_ok (steps ▸ reads) rfl
  exact bind_ok read builds

theorem ofFormat_ne_ok (steps : ofChars format = items)
    (fails : ∀ result, readAll items text TimeFields.unknown ≠ .ok result) (point : DateTime) :
    ofFormat format text ≠ .ok point := by
  intro reads
  obtain ⟨fields, reads, _⟩ := bind_eq_ok_iff.1 reads
  obtain ⟨result, reads, _⟩ := bind_eq_ok_iff.1 reads
  exact fails result (steps ▸ reads)

theorem ofChars_secondsFormat : ofChars secondsFormat =
    longDate ++ .literal ['T'] :: .number .hour :: .literal [':'] :: .number .minute ::
      .literal [':'] :: .number .second :: [.fraction] := by
  cbv

theorem ofChars_minutesFormat : ofChars minutesFormat =
    longDate ++ .literal ['T'] :: .number .hour :: .literal [':'] :: [.number .minute] := by
  cbv

section Known

variable {year month day hour minute second fraction : List Char} {date : Date} {time : TimeOfDay}
  {nanosecond : Nat}

/-- Hour and minute behind a `T` are read by the format without seconds, and by no other. -/
theorem ofFormat_minutes (isYear : DigitsOf 4 year) (isMonth : DigitsOf 2 month)
    (isDay : DigitsOf 2 day) (isHour : DigitsOf 2 hour) (isMinute : DigitsOf 2 minute)
    (isDate : Date.ofDate? (digitsValue year) (digitsValue month) (digitsValue day) = some date)
    (isTime : (⟨digitsValue hour, digitsValue minute, 0, 0⟩ : Clock).time? = some time)
    (same : text = year ++ '-' :: (month ++ '-' :: (day ++ 'T' :: (hour ++ ':' :: minute)))) :
    (∀ point, ofFormat secondsFormat text ≠ .ok point) ∧
      ofFormat minutesFormat text = .ok ⟨date, time⟩ := by
  obtain ⟨hourMost, minuteMost, _⟩ := Clock.inside_of_time? isTime
  let clock : Clock := ⟨digitsValue hour, digitsValue minute, 0, 0⟩
  have minutes : ∀ items,
      readAll (.number .hour :: .literal [':'] :: .number .minute :: items) (hour ++ ':' :: minute)
        (dateFields (digitsValue year) (digitsValue month) (digitsValue day)) =
      readAll items [] (TimeFields.known (digitsValue year) (digitsValue month) (digitsValue day)
        clock none none) := by
    intro items
    rw [← readAll_hourAndMinute isHour isMinute hourMost minuteMost
      (show clock.hour = _ from rfl) rfl items [], List.append_nil]
  subst same
  constructor
  · refine ofFormat_ne_ok ofChars_secondsFormat fun result => ?_
    rw [readAll_longDate_ok isYear isMonth isDay isDate, readAll_mark, minutes]
    have missing : [].head? ≠ some ':' := nofun
    exact readAll_mark_ne_ok missing result
  · refine ofFormat_eq_ok ofChars_minutesFormat ?_
      (TimeFields.dateTime_known isDate isTime Option.getD_none Option.getD_none fun _ => rfl)
    rw [readAll_longDate_ok isYear isMonth isDay isDate, readAll_mark, minutes]
    rfl

/-- A time of day with seconds behind a `T` is read by the format with seconds. -/
theorem ofFormat_seconds (isYear : DigitsOf 4 year) (isMonth : DigitsOf 2 month)
    (isDay : DigitsOf 2 day) (isHour : DigitsOf 2 hour) (isMinute : DigitsOf 2 minute)
    (isSecond : DigitsOf 2 second) (isFraction : TimeSpan.Fraction fraction nanosecond)
    (isDate : Date.ofDate? (digitsValue year) (digitsValue month) (digitsValue day) = some date)
    (isTime : (⟨digitsValue hour, digitsValue minute, digitsValue second, nanosecond⟩ :
      Clock).time? = some time)
    (same : text = year ++ '-' :: (month ++ '-' :: (day ++ 'T' :: (hour ++ ':' ::
      (minute ++ ':' :: (second ++ fraction)))))) :
    ofFormat secondsFormat text = .ok ⟨date, time⟩ := by
  let clock : Clock := ⟨digitsValue hour, digitsValue minute, digitsValue second, nanosecond⟩
  obtain ⟨hourMost, minuteMost, secondMost, less⟩ := Clock.inside_of_time? isTime
  obtain ⟨nanosecond?, isNanosecond, reads⟩ :
      ∃ nanosecond? : Option Int, nanosecond?.getD 0 = clock.nanosecond ∧
        readAll [.fraction] fraction (TimeFields.known (digitsValue year) (digitsValue month)
            (digitsValue day) clock (some clock.second) none) =
          .ok (TimeFields.known (digitsValue year) (digitsValue month) (digitsValue day) clock
            (some clock.second) nanosecond?, []) := readAll_fraction isFraction less
  subst same
  refine ofFormat_eq_ok ofChars_secondsFormat ?_
    (TimeFields.dateTime_known isDate isTime Option.getD_some isNanosecond nofun)
  rw [readAll_longDate_ok isYear isMonth isDay isDate, readAll_mark,
    readAll_hourAndMinute isHour isMinute hourMost minuteMost (show clock.hour = _ from rfl) rfl,
    readAll_mark, readAll_second isSecond secondMost rfl]
  exact reads

end Known

end DateTime

end RecordQuery
