import RecordQuery.Proofs.Grammar.ParseTree
import RecordQuery.Proofs.Text.Trimming
import RecordQuery.Proofs.Time.Words
import RecordQuery.Proofs.Tokens.Tiling

/-!
# The forms of spans

The grammar of written spans on its own: a number of days, or a clock of hours and minutes, with
seconds and a fraction of them where they are wanted, and with days in front of the seconds
(`TimeSpan.Form`).  A sign may stand before all of that and blanks around it (`TimeSpan.Writes`).

A text is read as a span if it has one of the forms and its parts are in range, and then it is read
as the exact number of nanoseconds (`TimeSpan.ofText_exact`).  The reader does not follow the
grammar: it takes the longest piece that looks like a clock and asks whether anything is left.  What
relates the two is that a well written notation is read back from its own text.
-/

set_option autoImplicit false

namespace RecordQuery

open Text (digitsValue AllDigits AllBlank Tight)

/-! ## Parts -/

namespace TimeSpan

/-- The numbers that a span is written with. -/
structure Parts where
  days : Nat
  hours : Nat
  minutes : Nat
  seconds : Nat
  nanoseconds : Nat

/-- The exact length in nanoseconds. -/
def Parts.length (parts : Parts) : Nat :=
  (parts.days * 86400 + parts.hours * 3600 + parts.minutes * 60 + parts.seconds) * 1000000000 +
    parts.nanoseconds

/-- A day has less than 24 hours, an hour less than 60 minutes, a minute less than 60 seconds, and
the whole is at most as long as the longest span. -/
structure Parts.InRange (parts : Parts) : Prop where
  hours : parts.hours < 24
  minutes : parts.minutes < 60
  seconds : parts.seconds < 60
  length : parts.length ≤ limit

end TimeSpan

/-! ## Notations and their texts -/

namespace SpanNotation

variable {span : SpanNotation} {p : Char → Prop}

theorem forall_markedChars {mark : Char} {digits : List Char} (all : AllDigits digits)
    (digit : ∀ c, c.isDigit = true → p c) (isMark : p mark) :
    ∀ c ∈ markedChars mark digits, p c := by
  unfold markedChars
  split
  · nofun
  · rintro c (_ | ⟨_, mem⟩)
    · exact isMark
    · exact digit c (all c mem)

/-- The text of a span has digits, colons and points. -/
theorem WellWritten.forall_chars (written : span.WellWritten)
    (digit : ∀ c, c.isDigit = true → p c) (colon : p ':') (point : p '.') :
    ∀ c ∈ span.chars, p c := by
  have days : ∀ c ∈ (if span.days = [] then [] else span.days ++ ['.']), p c := by
    split
    · nofun
    · intro c mem
      rcases List.mem_append.1 mem with mem | mem
      · exact digit c (written.days c mem)
      · rwa [List.mem_singleton.1 mem]
  intro c mem
  simp only [chars, List.mem_append, List.mem_cons] at mem
  rcases mem with (((mem | mem) | rfl | mem) | mem) | mem
  · exact days c mem
  · exact digit c (written.hours c mem)
  · exact colon
  · exact digit c (written.minutes c mem)
  · exact forall_markedChars written.seconds digit colon c mem
  · exact forall_markedChars written.fraction digit point c mem

theorem colon_mem_chars (span : SpanNotation) : ':' ∈ span.chars := by
  simp [chars]

theorem WellWritten.tight_chars (written : span.WellWritten) : Tight span.chars :=
  Text.tight_of_visible (written.forall_chars (fun _ => Text.not_isBlank_of_isDigit) rfl rfl)

/-- A well written span that is all of a text is read. -/
theorem WellWritten.read?_chars (written : span.WellWritten) :
    read? true span.chars = some (span, []) := by
  have reads : read? true (span.chars ++ []) = some (span, []) :=
    read?_chars_append written nofun .nil
  rwa [List.append_nil] at reads

/-- The numbers that the digits of a span write. -/
def parts (span : SpanNotation) : TimeSpan.Parts :=
  ⟨digitsValue span.days, digitsValue span.hours, digitsValue span.minutes,
    digitsValue span.seconds, digitsValue span.fraction * 10 ^ (9 - span.fraction.length)⟩

theorem boundedValue_eq_ok_iff {digits : List Char} {value : Nat} :
    boundedValue digits = .ok value ↔
      digitsValue digits ≤ 0x7FFFFFFFFFFFFFFF ∧ digitsValue digits = value := by
  unfold boundedValue
  dsimp only
  split
  · next small => simp [small]
  · next large => simp [large]

/-- The digits write a span if their numbers are in range, and then it has the exact length. -/
theorem value_eq_ok_iff {result : TimeSpan} :
    span.value = .ok result ↔
      span.fraction.length ≤ 9 ∧ span.parts.InRange ∧ result.nanoseconds = span.parts.length := by
  have scale : Nat.pow 10 (9 - span.fraction.length) = 10 ^ (9 - span.fraction.length) := rfl
  unfold value
  by_cases long : 9 < span.fraction.length
  · rw [if_pos long]
    exact iff_of_false nofun fun both => Nat.not_lt.2 both.1 long
  rw [if_neg long]
  simp only [bind_eq_ok_iff, boundedValue_eq_ok_iff]
  constructor
  · rintro ⟨_, ⟨_, rfl⟩, _, ⟨_, rfl⟩, _, ⟨_, rfl⟩, _, ⟨_, rfl⟩, clock⟩
    split at clock
    · cases clock
    · next inside =>
      split at clock
      · next total found =>
        cases clock
        have exact := TimeSpan.ofNanoseconds?_eq_some.1 found
        rw [scale] at exact
        have exact : result.nanoseconds = span.parts.length := exact
        simp only [not_or, Nat.not_le] at inside
        exact ⟨Nat.le_of_not_lt long,
          ⟨inside.1, inside.2.1, inside.2.2, exact ▸ result.in_range.2⟩, exact⟩
      · cases clock
  · rintro ⟨_, inRange, exact⟩
    have hours : digitsValue span.hours < 24 := inRange.hours
    have minutes : digitsValue span.minutes < 60 := inRange.minutes
    have seconds : digitsValue span.seconds < 60 := inRange.seconds
    have found := TimeSpan.ofNanoseconds?_eq_some.2 exact
    have days : digitsValue span.days ≤ 0x7FFFFFFFFFFFFFFF := by
      have most := inRange.length
      simp only [TimeSpan.Parts.length, parts, TimeSpan.limit] at most
      omega
    refine ⟨_, ⟨days, rfl⟩, _, ⟨by omega, rfl⟩, _, ⟨by omega, rfl⟩, _, ⟨by omega, rfl⟩, ?_⟩
    rw [if_neg (by omega), scale]
    simp only [TimeSpan.Parts.length, parts] at found
    rw [found]
    rfl

end SpanNotation

/-! ## Forms -/

/-- One digit or more. -/
structure Text.Digits (text : List Char) : Prop where
  all : AllDigits text
  some : text ≠ []

open Text (Digits)

namespace TimeSpan

/-- What may stand behind seconds, with its nanoseconds: nothing, or a point and one to nine
digits. -/
inductive Fraction : List Char → Nat → Prop
  | none : Fraction [] 0
  | point {digits : List Char} (written : Digits digits) (short : digits.length ≤ 9) :
      Fraction ('.' :: digits) (digitsValue digits * 10 ^ (9 - digits.length))

/-- The forms of a span without a sign. -/
inductive Form : List Char → Parts → Prop
  | days {days : List Char} (isDays : Digits days) : Form days ⟨digitsValue days, 0, 0, 0, 0⟩
  | minutes {hours minutes : List Char} (isHours : Digits hours) (isMinutes : Digits minutes) :
      Form (hours ++ ':' :: minutes) ⟨0, digitsValue hours, digitsValue minutes, 0, 0⟩
  | seconds {hours minutes seconds fraction : List Char} {nanoseconds : Nat}
      (isHours : Digits hours) (isMinutes : Digits minutes) (isSeconds : Digits seconds)
      (isFraction : Fraction fraction nanoseconds) :
      Form (hours ++ ':' :: minutes ++ ':' :: seconds ++ fraction)
        ⟨0, digitsValue hours, digitsValue minutes, digitsValue seconds, nanoseconds⟩
  | daysAndSeconds {days hours minutes seconds fraction : List Char} {nanoseconds : Nat}
      (isDays : Digits days) (isHours : Digits hours) (isMinutes : Digits minutes)
      (isSeconds : Digits seconds) (isFraction : Fraction fraction nanoseconds) :
      Form (days ++ '.' :: hours ++ ':' :: minutes ++ ':' :: seconds ++ fraction)
        ⟨digitsValue days, digitsValue hours, digitsValue minutes, digitsValue seconds,
          nanoseconds⟩

/-- A form in range, with a minus sign or without, and the nanoseconds that it stands for. -/
inductive Signed : List Char → Int → Prop
  | plus {text : List Char} {parts : Parts} (form : Form text parts) (inRange : parts.InRange) :
      Signed text parts.length
  | minus {text : List Char} {parts : Parts} (form : Form text parts) (inRange : parts.InRange) :
      Signed ('-' :: text) (-parts.length)

/-- A text is a span of so many nanoseconds, with blanks around it. -/
def Writes (text : List Char) (nanoseconds : Int) : Prop :=
  ∃ before written after, text = before ++ written ++ after ∧ AllBlank before ∧ AllBlank after ∧
    Signed written nanoseconds

variable {text fraction : List Char} {parts : Parts} {nanoseconds : Nat} {span : TimeSpan}

/-! ## Forms and notations -/

theorem Fraction.exists_digits (form : Fraction fraction nanoseconds) :
    ∃ digits, AllDigits digits ∧ SpanNotation.markedChars '.' digits = fraction ∧
      digits.length ≤ 9 ∧ digitsValue digits * 10 ^ (9 - digits.length) = nanoseconds := by
  cases form with
  | none => exact ⟨[], Text.allDigits_nil, rfl, Nat.zero_le _, Nat.zero_mul _⟩
  | point written short => exact ⟨_, written.all, if_neg written.some, short, rfl⟩

theorem digitsValue_nil : digitsValue [] = 0 := rfl

theorem exists_fraction {digits : List Char} (all : AllDigits digits) (short : digits.length ≤ 9) :
    Fraction (SpanNotation.markedChars '.' digits)
      (digitsValue digits * 10 ^ (9 - digits.length)) := by
  unfold SpanNotation.markedChars
  split
  · next empty =>
    subst empty
    rw [digitsValue_nil, Nat.zero_mul]
    exact .none
  · next some => exact .point ⟨all, some⟩ short

/-- A form that is not a mere number of days is the text of a notation with the same numbers. -/
theorem Form.exists_notation (form : Form text parts) :
    (Digits text ∧ parts = ⟨digitsValue text, 0, 0, 0, 0⟩) ∨
    ∃ span : SpanNotation, span.WellWritten ∧ span.chars = text ∧ span.fraction.length ≤ 9 ∧
      span.parts = parts := by
  cases form with
  | days isDays => exact .inl ⟨isDays, rfl⟩
  | @minutes hours minutes isHours isMinutes =>
      refine .inr ⟨⟨[], hours, minutes, [], []⟩, ?_, ?_, Nat.zero_le _, ?_⟩
      · exact ⟨Text.allDigits_nil, isHours.all, isMinutes.all, Text.allDigits_nil,
          Text.allDigits_nil, isHours.some, isMinutes.some, absurd rfl, absurd rfl⟩
      · simp [SpanNotation.chars, SpanNotation.markedChars]
      · simp [SpanNotation.parts, digitsValue_nil]
  | @seconds hours minutes seconds _ _ isHours isMinutes isSeconds isFraction =>
      obtain ⟨digits, all, rfl, short, rfl⟩ := isFraction.exists_digits
      refine .inr ⟨⟨[], hours, minutes, seconds, digits⟩, ?_, ?_, short, rfl⟩
      · exact ⟨Text.allDigits_nil, isHours.all, isMinutes.all, isSeconds.all, all, isHours.some,
          isMinutes.some, absurd rfl, fun _ => isSeconds.some⟩
      · simp [SpanNotation.chars, SpanNotation.markedChars, isSeconds.some]
  | @daysAndSeconds days hours minutes seconds _ _ isDays isHours isMinutes isSeconds isFraction =>
      obtain ⟨digits, all, rfl, short, rfl⟩ := isFraction.exists_digits
      refine .inr ⟨⟨days, hours, minutes, seconds, digits⟩, ?_, ?_, short, rfl⟩
      · exact ⟨isDays.all, isHours.all, isMinutes.all, isSeconds.all, all, isHours.some,
          isMinutes.some, fun _ => isSeconds.some, fun _ => isSeconds.some⟩
      · simp [SpanNotation.chars, SpanNotation.markedChars, isDays.some, isSeconds.some]

/-- The text of a notation has one of the forms. -/
theorem form_of_wellWritten {span : SpanNotation} (written : span.WellWritten)
    (short : span.fraction.length ≤ 9) : Form span.chars span.parts := by
  obtain ⟨days, hours, minutes, seconds, digits⟩ := span
  obtain ⟨allDays, allHours, allMinutes, allSeconds, allDigits, someHours, someMinutes,
    secondsOfDays, secondsOfFraction⟩ := written
  have isHours : Digits hours := ⟨allHours, someHours⟩
  have isMinutes : Digits minutes := ⟨allMinutes, someMinutes⟩
  have isFraction := exists_fraction allDigits short
  by_cases noSeconds : seconds = []
  · subst noSeconds
    have noDays : days = [] := by
      by_contra some
      exact secondsOfDays some rfl
    have noFraction : digits = [] := by
      by_contra some
      exact secondsOfFraction some rfl
    subst noDays noFraction
    have form := Form.minutes isHours isMinutes
    simpa [SpanNotation.chars, SpanNotation.markedChars, SpanNotation.parts, digitsValue_nil]
      using form
  · have isSeconds : Digits seconds := ⟨allSeconds, noSeconds⟩
    by_cases noDays : days = []
    · subst noDays
      have form := Form.seconds isHours isMinutes isSeconds isFraction
      simpa [SpanNotation.chars, SpanNotation.markedChars, SpanNotation.parts, noSeconds,
        digitsValue_nil] using form
    · have form := Form.daysAndSeconds ⟨allDays, noDays⟩ isHours isMinutes isSeconds isFraction
      simpa [SpanNotation.chars, SpanNotation.markedChars, SpanNotation.parts, noSeconds,
        noDays] using form

/-! ## Reading forms -/

theorem ofUnsigned?_of_digits (isDays : Digits text) :
    ofUnsigned? text = ofDays? (digitsValue text) :=
  if_pos ⟨isDays.some, List.all_eq_true.2 isDays.all⟩

/-- A text with a colon is read as a notation or not at all. -/
theorem ofUnsigned?_of_colon (colon : ':' ∈ text) :
    ofUnsigned? text =
      match SpanNotation.read? true text with
      | some (span, []) => span.value.toOption
      | _ => none :=
  if_neg fun digits => absurd (List.all_eq_true.1 digits.2 _ colon) (by decide)

/-- The text of a notation is read as what its digits write. -/
theorem ofUnsigned?_chars {span : SpanNotation} (written : span.WellWritten) :
    ofUnsigned? span.chars = span.value.toOption := by
  rw [ofUnsigned?_of_colon span.colon_mem_chars, written.read?_chars]

theorem ofDays?_eq_some_iff {days : Nat} :
    ofDays? days = some span ↔
      (⟨days, 0, 0, 0, 0⟩ : Parts).InRange ∧
        span.nanoseconds = (⟨days, 0, 0, 0, 0⟩ : Parts).length := by
  have length : ((⟨days, 0, 0, 0, 0⟩ : Parts).length : Int) = days * 86400 * 1000000000 := by
    simp [Parts.length]
  rw [ofDays?, ofNanoseconds?_eq_some, ← length]
  refine ⟨fun exact => ⟨?_, exact⟩, fun both => both.2⟩
  exact ⟨Nat.zero_lt_succ _, Nat.zero_lt_succ _, Nat.zero_lt_succ _, exact ▸ span.in_range.2⟩

/-- Without a sign just the forms in range are read, with their exact lengths. -/
theorem ofUnsigned?_eq_some_iff :
    ofUnsigned? text = some span ↔
      ∃ parts, Form text parts ∧ parts.InRange ∧ span.nanoseconds = parts.length := by
  constructor
  · intro reads
    by_cases digits : text ≠ [] ∧ text.all Char.isDigit = true
    · have isDays : Digits text := ⟨List.all_eq_true.1 digits.2, digits.1⟩
      rw [ofUnsigned?_of_digits isDays] at reads
      exact ⟨_, .days isDays, ofDays?_eq_some_iff.1 reads⟩
    · rw [ofUnsigned?, if_neg digits] at reads
      split at reads
      · next notation? found =>
        have split := SpanNotation.eq_chars_append found
        rw [List.append_nil] at split
        obtain ⟨short, inRange, exact⟩ :=
          SpanNotation.value_eq_ok_iff.1 (Except.toOption_eq_some_iff.1 reads)
        obtain ⟨written, _⟩ := SpanNotation.wellWritten_of_read? found
        exact ⟨_, split ▸ form_of_wellWritten written short, inRange, exact⟩
      · cases reads
  · rintro ⟨parts, form, inRange, exact⟩
    rcases form.exists_notation with ⟨isDays, rfl⟩ | ⟨written?, written, rfl, short, rfl⟩
    · rw [ofUnsigned?_of_digits isDays]
      exact ofDays?_eq_some_iff.2 ⟨inRange, exact⟩
    · rw [ofUnsigned?_chars written, SpanNotation.value_eq_ok_iff.2 ⟨short, inRange, exact⟩]
      rfl

/-- A form has neither blanks nor a sign, and it is not empty. -/
theorem Form.plain (form : Form text parts) :
    text ≠ [] ∧ ∀ c ∈ text, Text.isBlank c = false ∧ c ≠ '-' := by
  have digit : ∀ c : Char, c.isDigit = true → Text.isBlank c = false ∧ c ≠ '-' := by
    refine fun c isDigit => ⟨Text.not_isBlank_of_isDigit isDigit, ?_⟩
    rintro rfl
    cases isDigit
  rcases form.exists_notation with ⟨isDays, _⟩ | ⟨span, written, rfl, _⟩
  · exact ⟨isDays.some, fun c mem => digit c (isDays.all c mem)⟩
  · exact ⟨List.ne_nil_of_mem span.colon_mem_chars,
      written.forall_chars digit (by decide) (by decide)⟩

/-- The span that a text without blanks at its ends writes. -/
def ofSigned? : List Char → Option TimeSpan
  | '-' :: digits => (ofUnsigned? digits).map negate
  | digits => ofUnsigned? digits

theorem ofText_eq (text : String) :
    ofText text = (ofSigned? (Text.trim text.toList)).elim (.error (.noTimeSpan text)) .ok := rfl

/-- Just the signed forms are read. -/
theorem ofSigned?_eq_some_iff :
    ofSigned? text = some span ↔ Signed text span.nanoseconds := by
  constructor
  · intro reads
    unfold ofSigned? at reads
    split at reads
    · obtain ⟨unsigned, found, rfl⟩ := Option.map_eq_some_iff.1 reads
      obtain ⟨parts, form, inRange, exact⟩ := ofUnsigned?_eq_some_iff.1 found
      rw [nanoseconds_negate, exact]
      exact .minus form inRange
    · obtain ⟨parts, form, inRange, exact⟩ := ofUnsigned?_eq_some_iff.1 reads
      rw [exact]
      exact .plus form inRange
  · generalize same : span.nanoseconds = nanoseconds
    rintro (@⟨_, parts, form, inRange⟩ | @⟨unsigned, parts, form, inRange⟩)
    · have reads := ofUnsigned?_eq_some_iff.2 ⟨parts, form, inRange, same⟩
      unfold ofSigned?
      split
      · exact absurd rfl (form.plain.2 '-' List.mem_cons_self).2
      · exact reads
    · have reads : ofUnsigned? unsigned = some span.negate := ofUnsigned?_eq_some_iff.2
        ⟨parts, form, inRange, by rw [nanoseconds_negate, same, Int.neg_neg]⟩
      have back : span.negate.negate = span := by
        cases span
        simp [negate]
      exact Option.map_eq_some_iff.2 ⟨_, reads, back⟩

theorem Signed.tight {nanoseconds : Int} (signed : Signed text nanoseconds) : Tight text := by
  have visible : ∀ c ∈ text, Text.isBlank c = false := by
    cases signed with
    | plus form => exact fun c mem => (form.plain.2 c mem).1
    | minus form =>
        rintro c (_ | ⟨_, mem⟩)
        · decide
        · exact (form.plain.2 c mem).1
  exact Text.tight_of_visible visible

/-- What is written is the length of a span. -/
theorem Writes.in_range {nanoseconds : Int} (writes : Writes text nanoseconds) :
    -limit ≤ nanoseconds ∧ nanoseconds ≤ limit := by
  obtain ⟨_, _, _, _, _, _, signed⟩ := writes
  cases signed with
  | plus _ inRange =>
      have most := inRange.length
      simp only [limit] at most ⊢
      omega
  | minus _ inRange =>
      have most := inRange.length
      simp only [limit] at most ⊢
      omega

/-- A text is read as a span just when it writes that many nanoseconds. -/
theorem ofText_eq_ok_iff {text : String} :
    ofText text = .ok span ↔ Writes text.toList span.nanoseconds := by
  have trimmed : ofText text = .ok span ↔ Signed (Text.trim text.toList) span.nanoseconds := by
    rw [← ofSigned?_eq_some_iff, ofText_eq]
    cases ofSigned? (Text.trim text.toList) <;> simp
  rw [trimmed]
  constructor
  · intro signed
    obtain ⟨before, after, split, blankBefore, blankAfter⟩ := Text.exists_trim text.toList
    exact ⟨before, _, after, split, blankBefore, blankAfter, signed⟩
  · rintro ⟨before, written, after, split, blankBefore, blankAfter, signed⟩
    rwa [split, Text.trim_append blankBefore blankAfter signed.tight]

/-- A text is read as a span if it is written in one of the forms with its parts in range and is not
too long, and then it is read as exactly the nanoseconds that it writes.  All that is computed on
the way fits in words of 64 bits, or is found not to. -/
theorem ofText_exact (text : String) :
    (∀ nanoseconds, Writes text.toList nanoseconds ↔
      ∃ span, ofText text = .ok span ∧ span.nanoseconds = nanoseconds) ∧
    ofTextInWords text = some (ofText text) := by
  refine ⟨fun nanoseconds => ⟨?_, ?_⟩, ofTextInWords_eq text⟩
  · intro writes
    have inRange : -limit ≤ nanoseconds ∧ nanoseconds ≤ limit := writes.in_range
    exact ⟨⟨nanoseconds, inRange⟩, ofText_eq_ok_iff.2 writes, rfl⟩
  · rintro ⟨span, reads, rfl⟩
    exact ofText_eq_ok_iff.1 reads

end TimeSpan

end RecordQuery
