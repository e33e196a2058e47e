import RecordQuery.Proofs.Documents.Naming
import RecordQuery.Proofs.Literals.Times
import RecordQuery.Proofs.Time.FormatReading

/-!
# The forms of points in time

A point in time is a date of four, two and two digits, alone or with a time of day behind it
(`DateForm`, `ClockForm`).  What it stands for is found from the numbers alone (`DateTime.at?`).

There are three readers.  Tokens and the first attempt of the function for texts take the notation
with a blank; the other attempts follow a format with a `T`.  All writings of a date and a time of
day give the same point, and where there is none they are refused (`DateTime.writings_agree`).
-/

set_option autoImplicit false

namespace RecordQuery

open Text (digitsValue AllDigits AllBlank DigitsOf)

/-! ## Points in numbers -/

/-- The point in time with these numbers, when there is one. -/
def DateTime.at? (year month day : Nat) (clock : Clock) : Option DateTime :=
  (Date.ofDate? year month day).bind fun date => clock.time?.map fun time => ⟨date, time⟩

theorem DateTime.at?_eq_some_iff {year month day : Nat} {clock : Clock} {point : DateTime} :
    at? year month day clock = some point ↔
      Date.ofDate? year month day = some point.date ∧ clock.time? = some point.time := by
  simp only [at?, Option.bind_eq_some_iff, Option.map_eq_some_iff]
  constructor
  · rintro ⟨date, isDate, time, isTime, rfl⟩
    exact ⟨isDate, isTime⟩
  · rintro ⟨isDate, isTime⟩
    exact ⟨_, isDate, _, isTime, rfl⟩

/-- A day has less than 24 hours, an hour less than 60 minutes, a minute less than 60 seconds. -/
structure Clock.InRange (clock : Clock) : Prop where
  hour : clock.hour < 24
  minute : clock.minute < 60
  second : clock.second < 60

theorem Clock.isSome_time?_iff {clock : Clock} (less : clock.nanosecond < 1000000000) :
    clock.time?.isSome ↔ clock.InRange := by
  constructor
  · intro found
    obtain ⟨time, found⟩ := Option.isSome_iff_exists.1 found
    obtain ⟨hour, minute, second, _⟩ := inside_of_time? found
    exact ⟨hour, minute, second⟩
  · rintro ⟨hour, minute, second⟩
    rw [time?, dif_pos ⟨hour, minute, second, less⟩]
    rfl

/-! ## Forms -/

/-- A date with the numbers of its year, month and day. -/
inductive DateForm : List Char → Nat → Nat → Nat → Prop
  | digits {year month day : List Char} (isYear : DigitsOf 4 year) (isMonth : DigitsOf 2 month)
      (isDay : DigitsOf 2 day) :
      DateForm (year ++ '-' :: (month ++ '-' :: day)) (digitsValue year) (digitsValue month)
        (digitsValue day)

/-- A time of day in two digits each, without seconds or with them and a fraction behind. -/
inductive ClockForm : List Char → Clock → Prop
  | minutes {hour minute : List Char} (isHour : DigitsOf 2 hour) (isMinute : DigitsOf 2 minute) :
      ClockForm (hour ++ ':' :: minute) ⟨digitsValue hour, digitsValue minute, 0, 0⟩
  | seconds {hour minute second fraction : List Char} {nanosecond : Nat}
      (isHour : DigitsOf 2 hour) (isMinute : DigitsOf 2 minute) (isSecond : DigitsOf 2 second)
      (isFraction : TimeSpan.Fraction fraction nanosecond) :
      ClockForm (hour ++ ':' :: (minute ++ ':' :: (second ++ fraction)))
        ⟨digitsValue hour, digitsValue minute, digitsValue second, nanosecond⟩

variable {date clock : List Char} {year month day : Nat} {time : Clock}

theorem Text.DigitsOf.digits {count : Nat} {text : List Char}
    (digitsOf : DigitsOf (count + 1) text) : Text.Digits text where
  all := digitsOf.all
  some := by
    rintro rfl
    cases digitsOf.length

theorem TimeSpan.Fraction.lt_second {fraction : List Char} {nanoseconds : Nat}
    (isFraction : Fraction fraction nanoseconds) : nanoseconds < 1000000000 := by
  cases isFraction with
  | none => decide
  | @point digits written short =>
      have bounded := digitsValue_lt written.all
      have scaled := Nat.mul_lt_mul_of_pos_right bounded
        (Nat.pow_pos (n := 9 - digits.length) (show 0 < 10 by decide))
      rwa [← Nat.pow_add, Nat.add_sub_cancel' short] at scaled

theorem ClockForm.lt_second (isClock : ClockForm clock time) : time.nanosecond < 1000000000 := by
  cases isClock with
  | minutes => exact (by decide : 0 < 1000000000)
  | seconds _ _ _ isFraction => exact isFraction.lt_second

theorem DateForm.four_digits (isDate : DateForm date year month day) : year < 10000 := by
  cases isDate with
  | digits isYear =>
      have bounded := digitsValue_lt isYear.all
      rwa [isYear.length] at bounded

/-- There is a point in time if the calendar has the date and the time of day is in range. -/
theorem DateTime.isSome_at?_iff (isDate : DateForm date year month day)
    (isClock : ClockForm clock time) :
    (at? year month day time).isSome ↔ Calendar.IsDate year month day ∧ time.InRange := by
  rw [← Date.isSome_ofDate?_iff isDate.four_digits, ← Clock.isSome_time?_iff isClock.lt_second, at?]
  cases Date.ofDate? year month day <;> cases time.time? <;> simp

/-- A time of day is the text of a notation without days. -/
theorem ClockForm.exists_notation (isClock : ClockForm clock time) :
    ∃ span : SpanNotation, span.WellWritten ∧ span.days = [] ∧ span.chars = clock ∧
      span.fraction.length ≤ 9 ∧
      span.parts = ⟨0, time.hour, time.minute, time.second, time.nanosecond⟩ := by
  cases isClock with
  | @minutes hour minute isHour isMinute =>
      refine ⟨⟨[], hour, minute, [], []⟩, ?_, rfl, ?_, Nat.zero_le _, ?_⟩
      · exact ⟨Text.allDigits_nil, isHour.all, isMinute.all, Text.allDigits_nil,
          Text.allDigits_nil, isHour.digits.some, isMinute.digits.some, absurd rfl, absurd rfl⟩
      · simp [SpanNotation.chars, SpanNotation.markedChars]
      · simp [SpanNotation.parts, TimeSpan.digitsValue_nil]
  | @seconds hour minute second _ _ isHour isMinute isSecond isFraction =>
      obtain ⟨digits, all, rfl, short, rfl⟩ := isFraction.exists_digits
      refine ⟨⟨[], hour, minute, second, digits⟩, ?_, rfl, ?_, short, rfl⟩
      · exact ⟨Text.allDigits_nil, isHour.all, isMinute.all, isSecond.all, all, isHour.digits.some,
          isMinute.digits.some, absurd rfl, fun _ => isSecond.digits.some⟩
      · simp [SpanNotation.chars, SpanNotation.markedChars, isSecond.digits.some]

/-! ## Notations and points -/

/-- A span behind midnight is a time of day. -/
theorem DateTime.add?_midnight (date : Date) {span : TimeSpan} {time : TimeOfDay}
    (isSpan : span.nanoseconds = time.second * 1000000000 + time.nanosecond)
    (noLeap : time.nanosecond < 1000000000) :
    add? ⟨date, .midnight⟩ span = some ⟨date, time⟩ := by
  have start : TimeOfDay.midnight.add span = TimeOfDay.ofNanoseconds span.nanoseconds := by
    simp [TimeOfDay.add, TimeOfDay.isLeap, TimeOfDay.midnight]
  have sum : TimeOfDay.midnight.add span = (time, 0) := by
    obtain ⟨second, nanosecond, secondLt, _⟩ := time
    simp only at isSpan noLeap
    simp only [start, TimeOfDay.ofNanoseconds, isSpan, Prod.mk.injEq, TimeOfDay.mk.injEq]
    omega
  have sameDay : date.addDays? 0 = some date := by
    rw [Date.addDays?, Int.add_zero]
    exact dif_pos date.in_range
  simp only [add?, sum, sameDay, Option.map_some]

/-- The digits of a time of day write the time since midnight. -/
theorem SpanNotation.value_of_time? (span : SpanNotation) {clock : Clock} {time : TimeOfDay}
    (short : span.fraction.length ≤ 9)
    (parts : span.parts = ⟨0, clock.hour, clock.minute, clock.second, clock.nanosecond⟩)
    (found : clock.time? = some time) :
    ∃ length, span.value = .ok length ∧
      length.nanoseconds = time.second * 1000000000 + time.nanosecond ∧
      time.nanosecond < 1000000000 := by
  obtain ⟨hour, minute, second, less⟩ := Clock.inside_of_time? found
  obtain rfl : _ = time := Option.some.inj ((dif_pos ⟨hour, minute, second, less⟩).symm.trans found)
  have exact : span.parts.length =
      (clock.hour * 3600 + clock.minute * 60 + clock.second) * 1000000000 + clock.nanosecond := by
    simp [parts, TimeSpan.Parts.length]
  have most : (span.parts.length : Int) ≤ TimeSpan.limit := by
    simp only [exact, TimeSpan.limit]
    omega
  have least : -TimeSpan.limit ≤ (span.parts.length : Int) := by
    simp only [TimeSpan.limit]
    omega
  refine ⟨⟨span.parts.length, least, most⟩,
    SpanNotation.value_eq_ok_iff.2 ⟨short, ?_, rfl⟩, ?_, less⟩
  · exact ⟨by rwa [parts], by rwa [parts], by rwa [parts], most⟩
  · simp [exact]

/-- A digit begins a number. -/
theorem Lexeme.read_of_isDigit {c : Char} {text : List Char} (isDigit : c.isDigit = true) :
    read c text = readNumber (c :: text) := by
  have noWord : startsWord c = false := by
    by_contra starts
    cases isDigit.symm.trans (not_isDigit_of_startsWord (Bool.not_eq_false _ ▸ starts))
  have noRun : c ≠ '$' := by
    rintro rfl
    cases isDigit
  exact (if_neg (by simp [noWord])).trans ((if_neg noRun).trans (if_pos isDigit))

namespace PointNotation

theorem wellWritten_of_digits {year month day : List Char} {clock? : Option SpanNotation}
    (isYear : DigitsOf 4 year) (isMonth : DigitsOf 2 month) (isDay : DigitsOf 2 day)
    (clock : ∀ clock, clock? = some clock → clock.WellWritten ∧ clock.days = []) :
    WellWritten ⟨year, month, day, clock?⟩ :=
  ⟨isYear.all, isMonth.all, isDay.all, ⟨isYear.length, isMonth.length, isDay.length⟩, clock⟩

/-- The digits of a date write its midnight. -/
theorem value_date {year month day : List Char} :
    (value ⟨year, month, day, none⟩).toOption =
      DateTime.at? (digitsValue year) (digitsValue month) (digitsValue day) .midnight := by
  have midnight : Clock.midnight.time? = some .midnight := rfl
  rw [DateTime.at?, midnight, value]
  cases Date.ofDate? (digitsValue year) (digitsValue month) (digitsValue day) <;> rfl

/-- The digits of a date and of a time of day write the point with these numbers. -/
theorem value_clock {year month day : List Char} {span : SpanNotation} {time : Clock}
    (short : span.fraction.length ≤ 9) (less : time.nanosecond < 1000000000)
    (parts : span.parts = ⟨0, time.hour, time.minute, time.second, time.nanosecond⟩) :
    (value ⟨year, month, day, some span⟩).toOption =
      DateTime.at? (digitsValue year) (digitsValue month) (digitsValue day) time := by
  rw [DateTime.at?, value]
  cases Date.ofDate? (digitsValue year) (digitsValue month) (digitsValue day) with
  | none => rfl
  | some date =>
      cases found : time.time? with
      | some ofDay =>
          obtain ⟨length, values, isSpan, noLeap⟩ := span.value_of_time? short parts found
          have sum := DateTime.add?_midnight date isSpan noLeap
          simp only [values, bind, Except.bind, pure, Except.pure, sum]
          rfl
      | none =>
          cases values : span.value with
          | error fault =>
              simp only [values, bind, Except.bind, pure, Except.pure]
              rfl
          | ok result =>
              obtain ⟨_, inRange, _⟩ := SpanNotation.value_eq_ok_iff.1 values
              rw [parts] at inRange
              have isTime := (Clock.isSome_time?_iff less).2
                ⟨inRange.hours, inRange.minutes, inRange.seconds⟩
              rw [found] at isTime
              cases isTime

/-- The text of a point in time is a date and, if anything more, a blank and what follows it. -/
theorem exists_tail (point : PointNotation) :
    ∃ tail, point.chars = point.year ++ '-' :: (point.month ++ '-' :: (point.day ++ tail)) ∧
      tail.head? ≠ some 'T' := by
  refine ⟨_, point.chars_eq, ?_⟩
  cases point.clock <;> simp

variable {point : PointNotation}

theorem WellWritten.exists_first_digit (written : point.WellWritten) :
    ∃ c more, point.chars = c :: more ∧ c.isDigit = true := by
  have someYear : point.year ≠ [] := List.ne_nil_of_length_pos (by rw [written.lengths.1]; decide)
  obtain ⟨first, others, year⟩ := List.exists_cons_of_ne_nil someYear
  have split := point.chars_eq
  rw [year, List.cons_append] at split
  exact ⟨first, _, split, written.year first (year ▸ List.mem_cons_self)⟩

/-- The text of a point in time is one word if its digits write a point, and no word if not. -/
theorem WellWritten.read?_word (written : point.WellWritten) :
    Word.read? point.chars =
      point.value.toOption.map fun value =>
        (⟨.literal, String.ofList point.chars, some (.dateTime value)⟩, []) := by
  have span := span_read?_chars written []
  rw [List.append_nil] at span
  obtain ⟨c, more, split, isDigit⟩ := written.exists_first_digit
  have left : Text.trimStart point.chars = c :: more := by
    rw [split]
    exact List.dropWhile_cons_of_neg (by simp [Text.not_isBlank_of_isDigit isDigit])
  have reads : Lexeme.read c more =
      Lexeme.ofTime (c :: more) point.chars.length .dateTime point.value := by
    rw [Lexeme.read_of_isDigit isDigit, ← split, Lexeme.readNumber, span, written.read?_chars]
  simp only [Word.read?, left, reads]
  cases point.value with
  | error fault => rfl
  | ok value =>
      have length : point.chars.length - 1 + 1 = point.chars.length :=
        Nat.sub_add_cancel point.chars_length_pos
      simp [Lexeme.ofTime, Lexeme.ofLiteral, length, ← split, Except.toOption]

end PointNotation

/-! ## Readers -/

/-- A query that is one word has one token before the end. -/
theorem tokenize_of_read? {source : String} {word : Word}
    (reads : Word.read? source.toList = some (word, [])) (real : word.kind ≠ .endOfInput) :
    ∃ token ending, tokenize source = .ok [token, ending] ∧ token.word = word ∧
      ending.kind = .endOfInput := by
  have reads : Word.read? (Cursor.start source).rest = some (word, []) := reads
  obtain ⟨popped, pops, rfl, rest⟩ := Cursor.pop_of_read? reads
  have nothing : Word.read? popped.next.rest = some (⟨.endOfInput, "", none⟩, []) := by
    rw [rest]
    exact Word.read?_nil
  obtain ⟨ending, ends, word, _⟩ := Cursor.pop_of_read? nothing
  have ended : ending.token.kind = .endOfInput := congrArg Word.kind word
  have cuts := (Cursor.Pops.more pops real .none).tokens_of_end ends ended
  exact ⟨_, _, mapError_eq_ok_iff.2 cuts, rfl, ended⟩

/-- A query that begins with no word is not cut. -/
theorem tokenize_error_of_read? {source : String} (fails : Word.read? source.toList = none) :
    ∃ error, tokenize source = .error error := by
  cases pops : (Cursor.start source).pop with
  | ok popped => cases fails.symm.trans (Cursor.read?_of_pop pops)
  | error stuck =>
      refine ⟨stuck.error, ?_⟩
      rw [tokenize, Cursor.tokens, pops]
      rfl

namespace DateTime

/-- A text writes a point in time, or none.  That is what the function for texts finds in it, with
blanks around it or without.  As a query it is one token with that value, or no token at all, and
there is no other token with this text. -/
structure Writes (text : List Char) (point? : Option DateTime) : Prop where
  parsed (before after : List Char) (blankBefore : AllBlank before) (blankAfter : AllBlank after) :
    (ofText (String.ofList (before ++ text ++ after))).toOption = point?
  lexed (point : DateTime) (isPoint : point? = some point) :
    ∃ token ending, tokenize (String.ofList text) = .ok [token, ending] ∧
      token.word = ⟨.literal, String.ofList text, some (.dateTime point)⟩ ∧
      ending.kind = .endOfInput
  refused (missing : point? = none) : ∃ error, tokenize (String.ofList text) = .error error
  token {cursor : Cursor} {popped : Cursor.Popped cursor} (pops : cursor.pop = .ok popped)
    (same : popped.token.lexeme = String.ofList text) :
    ∃ point, point? = some point ∧ popped.token.literal? = some (.dateTime point)

variable {format text before after : List Char} {items : List FormatItem} {point : PointNotation}

/-- The formats with a `T` do not fit the text of a notation. -/
theorem ofFormat_chars_ne_ok (written : point.WellWritten)
    (steps : FormatItem.ofChars format = FormatItem.longDate ++ .literal ['T'] :: items)
    (result : DateTime) : ofFormat format point.chars ≠ .ok result := by
  obtain ⟨tail, split, missing⟩ := point.exists_tail
  rw [split]
  exact ofFormat_ne_ok steps (FormatItem.readAll_longDate_ne_ok ⟨written.year, written.lengths.1⟩
    ⟨written.month, written.lengths.2.1⟩ ⟨written.day, written.lengths.2.2⟩ missing _) result

/-- The function for texts reads the text of a notation as what its digits write. -/
theorem toOption_ofText_chars (written : point.WellWritten) (blankBefore : AllBlank before)
    (blankAfter : AllBlank after) :
    (ofText (String.ofList (before ++ point.chars ++ after))).toOption = point.value.toOption := by
  have trimmed :
      Text.trim (String.ofList (before ++ point.chars ++ after)).toList = point.chars := by
    rw [String.toList_ofList, Text.trim_append blankBefore blankAfter written.tight_chars]
  have reads := ofNotation?_chars written
  cases values : point.value with
  | ok value =>
      rw [values] at reads
      simp only [ofText, trimmed, reads, Except.toOption]
  | error fault =>
      rw [values] at reads
      have seconds := ofFormat_chars_ne_ok written ofChars_secondsFormat
      have minutes := ofFormat_chars_ne_ok written ofChars_minutesFormat
      cases bySeconds : ofFormat secondsFormat point.chars with
      | ok result => exact absurd bySeconds (seconds result)
      | error first =>
          cases byMinutes : ofFormat minutesFormat point.chars with
          | ok result => exact absurd byMinutes (minutes result)
          | error second =>
              simp only [ofText, trimmed, reads, bySeconds, byMinutes]
              rfl

/-- The text of a notation writes what its digits write. -/
theorem writes_chars (written : point.WellWritten) : Writes point.chars point.value.toOption where
  parsed before after blankBefore blankAfter :=
    toOption_ofText_chars written blankBefore blankAfter
  lexed value isValue := by
    refine tokenize_of_read? ?_ nofun
    rw [String.toList_ofList, written.read?_word, isValue]
    rfl
  refused missing := by
    refine tokenize_error_of_read? ?_
    rw [String.toList_ofList, written.read?_word, missing]
    rfl
  token {cursor popped} pops same := by
    have real : popped.token.kind ≠ .endOfInput := by
      intro ended
      have ending := congrArg Word.lexeme (Cursor.word_of_pop_end pops ended)
      have empty := congrArg String.toList (same.symm.trans ending)
      rw [String.toList_ofList] at empty
      exact Nat.ne_of_gt point.chars_length_pos (congrArg List.length empty)
    have again := (Word.read?_lexeme_append .nil (Cursor.read?_of_pop pops) real).1
    have lexeme : popped.token.word.lexeme.toList ++ [] = point.chars := by
      rw [List.append_nil, show popped.token.word.lexeme = _ from same, String.toList_ofList]
    rw [lexeme, written.read?_word] at again
    obtain ⟨value, isValue, word⟩ := Option.map_eq_some_iff.1 again
    exact ⟨value, isValue, congrArg (fun read => read.1.literal?) word.symm⟩

section WithT

variable {yearDigits monthDigits dayDigits : List Char} (isYear : DigitsOf 4 yearDigits)
  (isMonth : DigitsOf 2 monthDigits) (isDay : DigitsOf 2 dayDigits)
include isYear isMonth isDay

/-- A `T` is not in the notation of queries. -/
theorem ofNotation?_T :
    ofNotation? (yearDigits ++ '-' :: (monthDigits ++ '-' :: (dayDigits ++ 'T' :: clock))) =
      none := by
  have written : PointNotation.WellWritten ⟨yearDigits, monthDigits, dayDigits, none⟩ :=
    PointNotation.wellWritten_of_digits isYear isMonth isDay nofun
  rw [ofNotation?, PointNotation.read?_date written (Text.noDigit_cons rfl)]
  rfl

/-- Without the blanks around it a text with a `T` is read by one of the formats. -/
theorem ofText_T_trimmed {text : String} {value : DateTime} (isClock : ClockForm clock time)
    (isPoint : at? (digitsValue yearDigits) (digitsValue monthDigits) (digitsValue dayDigits) time =
      some value)
    (trimmed : Text.trim text.toList =
      yearDigits ++ '-' :: (monthDigits ++ '-' :: (dayDigits ++ 'T' :: clock))) :
    ofText text = .ok value := by
  obtain ⟨isDate, isTime⟩ := at?_eq_some_iff.1 isPoint
  simp only [ofText, trimmed, ofNotation?_T isYear isMonth isDay]
  cases isClock with
  | minutes isHour isMinute =>
      obtain ⟨noSeconds, minutes⟩ :=
        ofFormat_minutes isYear isMonth isDay isHour isMinute isDate isTime rfl
      generalize ofFormat secondsFormat _ = seconds at noSeconds ⊢
      cases seconds with
      | ok result => exact absurd rfl (noSeconds result)
      | error fault =>
          simp only [minutes]
          rfl
  | seconds isHour isMinute isSecond isFraction =>
      simp only [ofFormat_seconds isYear isMonth isDay isHour isMinute isSecond isFraction isDate
        isTime rfl]

end WithT

/-- A date and a time of day with a `T` between them are read as their point. -/
theorem ofText_T {value : DateTime} (isDate : DateForm date year month day)
    (isClock : ClockForm clock time) (isPoint : at? year month day time = some value)
    (blankBefore : AllBlank before) (blankAfter : AllBlank after) :
    ofText (String.ofList (before ++ (date ++ 'T' :: clock) ++ after)) = .ok value := by
  obtain ⟨span, clockWritten, _, isChars, _⟩ := isClock.exists_notation
  have clockTight : Text.Tight clock := isChars ▸ clockWritten.tight_chars
  have someClock : clock ≠ [] := isChars ▸ List.ne_nil_of_mem span.colon_mem_chars
  cases isDate with
  | @digits yearDigits monthDigits dayDigits isYear isMonth isDay =>
      refine ofText_T_trimmed isYear isMonth isDay isClock isPoint ?_
      have tight := isYear.all.tight.around isYear.digits.some
        ('-' :: (monthDigits ++ '-' :: (dayDigits ++ ['T']))) clockTight someClock
      rw [String.toList_ofList, Text.trim_append blankBefore blankAfter (by simpa using tight)]
      simp

/-- All writings of a date and a time of day give the same point in time, which is there if the
calendar has the date and the time of day is in range.  A date alone is its midnight.  Where there
is no point, the text is refused. -/
theorem writings_agree (isDate : DateForm date year month day) (isClock : ClockForm clock time) :
    ((at? year month day time).isSome ↔ Calendar.IsDate year month day ∧ time.InRange) ∧
    Writes date (at? year month day .midnight) ∧
    Writes (date ++ ' ' :: clock) (at? year month day time) ∧
    ∀ point, at? year month day time = some point →
      ∀ before after, AllBlank before → AllBlank after →
        ofText (String.ofList (before ++ (date ++ 'T' :: clock) ++ after)) = .ok point := by
  refine ⟨isSome_at?_iff isDate isClock, ?_, ?_,
    fun point isPoint before after => ofText_T isDate isClock isPoint⟩
  · cases isDate with
    | @digits yearDigits monthDigits dayDigits isYear isMonth isDay =>
        have written : PointNotation.WellWritten ⟨yearDigits, monthDigits, dayDigits, none⟩ :=
          PointNotation.wellWritten_of_digits isYear isMonth isDay nofun
        have writes := writes_chars written
        rw [PointNotation.value_date] at writes
        simpa [PointNotation.chars] using writes
  · obtain ⟨span, clockWritten, noDays, rfl, short, parts⟩ := isClock.exists_notation
    cases isDate with
    | @digits yearDigits monthDigits dayDigits isYear isMonth isDay =>
        have isClock' : ∀ clock, some span = some clock → clock.WellWritten ∧ clock.days = [] := by
          rintro _ ⟨⟩
          exact ⟨clockWritten, noDays⟩
        have writes := writes_chars <|
          PointNotation.wellWritten_of_digits isYear isMonth isDay isClock'
        rw [PointNotation.value_clock short isClock.lt_second parts] at writes
        simpa [PointNotation.chars] using writes

/-- The last half second of a leap day. -/
theorem writings_agree_leap_day :
    DateForm "2024-02-29".toList 2024 2 29 ∧
    ClockForm "23:59:59.5".toList ⟨23, 59, 59, 500000000⟩ ∧
    ∃ point, at? 2024 2 29 ⟨23, 59, 59, 500000000⟩ = some point ∧
      Writes "2024-02-29".toList (at? 2024 2 29 .midnight) ∧
      Writes "2024-02-29 23:59:59.5".toList (some point) ∧
      ofText "2024-02-29T23:59:59.5\n" = .ok point := by
  have pair : ∀ tens units : Char, tens.isDigit = true → units.isDigit = true →
      DigitsOf 2 [tens, units] := fun tens units isTens isUnits =>
    ⟨List.forall_mem_cons.2 ⟨isTens, List.forall_mem_singleton.2 isUnits⟩, rfl⟩
  have fourDigits : DigitsOf 4 ['2', '0', '2', '4'] := ⟨List.all_eq_true.1 rfl, rfl⟩
  have half : Text.Digits ['5'] := ⟨List.all_eq_true.1 rfl, nofun⟩
  have isDate : DateForm "2024-02-29".toList 2024 2 29 :=
    .digits fourDigits (pair '0' '2' rfl rfl) (pair '2' '9' rfl rfl)
  have isClock : ClockForm "23:59:59.5".toList ⟨23, 59, 59, 500000000⟩ :=
    .seconds (pair '2' '3' rfl rfl) (pair '5' '9' rfl rfl) (pair '5' '9' rfl rfl)
      (.point half (Nat.le_of_ble_eq_true rfl))
  have isPoint : at? 2024 2 29 ⟨23, 59, 59, 500000000⟩ =
      some ⟨⟨19782, by decide⟩, ⟨86399, 500000000, by decide, by decide⟩⟩ := rfl
  obtain ⟨_, alone, blank, withT⟩ := writings_agree isDate isClock
  rw [isPoint] at blank
  refine ⟨isDate, isClock, _, isPoint, alone, blank, ?_⟩
  exact withT _ isPoint [] ['\n'] nofun (List.forall_mem_singleton.2 rfl)

end DateTime

end RecordQuery
