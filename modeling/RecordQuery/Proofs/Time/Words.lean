import RecordQuery.Proofs.Time.Writing
import RecordQuery.Time.Reading

/-!
# Spans computed in words

The numbers of a written span may have any number of digits.  Here its value is computed as a
machine does it, in signed words of 64 bits.  Some steps are checked: where the exact result is no
word, the text is rejected.  The others are not, and would wrap.  `SpanNotation.valueInWords`
gives nothing at all as soon as one of these has no exact result, so `valueInWords_eq`, by which it
always gives what `SpanNotation.value` computes without bounds, says that no step wraps.

Digits are read one by one with checks (`digitsWord_cases`).  What is multiplied and added without
checks is at most nine digits of a fraction, and parts of a clock that were found to be in range.
-/

set_option autoImplicit false

namespace RecordQuery

open Text (digitsValue AllDigits)

/-! ## Words -/

/-- The word that an exact number is, if it is one. -/
def word? (exact : Int) : Option Int64 :=
  if -2 ^ 63 ≤ exact ∧ exact < 2 ^ 63 then some (Int64.ofInt exact) else none

/-- The sum of two words, if it is a word. -/
def wordSum? (left right : Int64) : Option Int64 := word? (left.toInt + right.toInt)

/-- The product of two words, if it is a word. -/
def wordProduct? (left right : Int64) : Option Int64 := word? (left.toInt * right.toInt)

/-- A power of a word, if it is a word. -/
def wordPower? (base : Int64) (exponent : Nat) : Option Int64 := word? (base.toInt ^ exponent)

/-- A word stands for a number. -/
def Stands (word : Int64) (value : Nat) : Prop := word.toInt = value

section Words

variable {exact : Int} {word left right : Int64} {value value' : Nat}

theorem exists_word? (least : -2 ^ 63 ≤ exact) (most : exact < 2 ^ 63) :
    ∃ word, word? exact = some word ∧ word.toInt = exact :=
  ⟨_, if_pos ⟨least, most⟩, Int64.toInt_ofInt_of_le least most⟩

theorem word?_eq_none (large : 2 ^ 63 ≤ exact) : word? exact = none :=
  if_neg fun inside => absurd inside.2 (Int.not_lt.2 large)

/-- A sum that is small enough is a word. -/
theorem exists_wordSum? (stands : Stands left value) (stands' : Stands right value')
    (small : value + value' < 2 ^ 63) :
    ∃ sum, wordSum? left right = some sum ∧ Stands sum (value + value') := by
  rw [wordSum?, stands, stands']
  exact exists_word? (by omega) (by omega)

theorem wordSum?_eq_none (stands : Stands left value) (stands' : Stands right value')
    (large : 2 ^ 63 ≤ value + value') : wordSum? left right = none := by
  rw [wordSum?, stands, stands']
  exact word?_eq_none (by omega)

/-- A product that is small enough is a word. -/
theorem exists_wordProduct? (stands : Stands left value) (stands' : Stands right value')
    (small : value * value' < 2 ^ 63) :
    ∃ product, wordProduct? left right = some product ∧ Stands product (value * value') := by
  rw [wordProduct?, stands, stands', ← Int.natCast_mul]
  exact exists_word? (by omega) (by omega)

theorem wordProduct?_eq_none (stands : Stands left value) (stands' : Stands right value')
    (large : 2 ^ 63 ≤ value * value') : wordProduct? left right = none := by
  rw [wordProduct?, stands, stands', ← Int.natCast_mul]
  exact word?_eq_none (by omega)

/-- A power that is small enough is a word. -/
theorem exists_wordPower? {exponent : Nat} (stands : Stands left value)
    (small : value ^ exponent < 2 ^ 63) :
    ∃ power, wordPower? left exponent = some power ∧ Stands power (value ^ exponent) := by
  rw [wordPower?, stands, ← Int.natCast_pow]
  exact exists_word? (by omega) (by omega)

theorem Stands.le_iff (stands : Stands word value) (bound : Int64) :
    bound ≤ word ↔ bound.toInt ≤ value := by
  rw [Int64.le_iff_toInt_le, stands]

end Words

/-! ## Digits -/

/-- One digit more; the multiplication and the addition are checked. -/
def appendDigit (value : Int64) (digit : Char) : Except NotationFault Int64 :=
  match (wordProduct? value 10).bind (wordSum? · (Int64.ofNat (digit.toNat - '0'.toNat))) with
  | some value => .ok value
  | none => .error .numberTooLarge

/-- The word that digits write. -/
def digitsWord (digits : List Char) : Except NotationFault Int64 := digits.foldlM appendDigit 0

section Digits

variable {word : Int64} {value : Nat} {digit : Char}

theorem digit_le_nine (isDigit : digit.isDigit = true) : digit.toNat - '0'.toNat ≤ 9 := by
  have bounds : 48 ≤ digit.toNat ∧ digit.toNat ≤ 57 := by
    simpa [Char.isDigit, UInt32.le_iff_toNat_le] using isDigit
  exact Nat.sub_le_sub_right bounds.2 48

theorem stands_digit (isDigit : digit.isDigit = true) :
    Stands (Int64.ofNat (digit.toNat - '0'.toNat)) (digit.toNat - '0'.toNat) :=
  Int64.toInt_ofNat_of_lt (Nat.lt_of_le_of_lt (digit_le_nine isDigit) (by decide))

theorem appendDigit_eq_ok (stands : Stands word value) (isDigit : digit.isDigit = true)
    (small : value * 10 + (digit.toNat - '0'.toNat) < 2 ^ 63) :
    ∃ next, appendDigit word digit = .ok next ∧
      Stands next (value * 10 + (digit.toNat - '0'.toNat)) := by
  have ten : Stands 10 10 := rfl
  obtain ⟨tens, product, isProduct⟩ := exists_wordProduct? stands ten (by omega)
  obtain ⟨next, sum, isSum⟩ := exists_wordSum? isProduct (stands_digit isDigit) small
  refine ⟨next, ?_, isSum⟩
  simp only [appendDigit, product, Option.bind_some, sum]

theorem appendDigit_eq_error (stands : Stands word value) (isDigit : digit.isDigit = true)
    (large : 2 ^ 63 ≤ value * 10 + (digit.toNat - '0'.toNat)) :
    appendDigit word digit = .error .numberTooLarge := by
  have ten : Stands 10 10 := rfl
  by_cases fits : value * 10 < 2 ^ 63
  · obtain ⟨tens, product, isProduct⟩ := exists_wordProduct? stands ten fits
    have sum := wordSum?_eq_none isProduct (stands_digit isDigit) large
    simp only [appendDigit, product, Option.bind_some, sum]
  · have product := wordProduct?_eq_none stands ten (Nat.le_of_not_lt fits)
    simp only [appendDigit, product, Option.bind_none]

/-- Digits behind a number do not make it smaller. -/
theorem le_foldl_digits (digits : List Char) (value : Nat) :
    value ≤ digits.foldl (fun value digit => value * 10 + (digit.toNat - '0'.toNat)) value := by
  induction digits generalizing value with
  | nil => exact Nat.le_refl _
  | cons digit digits ih =>
      rw [List.foldl_cons]
      exact Nat.le_trans (by omega) (ih _)

/-- Digits behind a number make it the exact one, or they are refused because that is no word.  It
is refused where it first becomes too large, and digits behind do not make it smaller again. -/
theorem foldlM_appendDigit {digits : List Char} (all : AllDigits digits)
    (stands : Stands word value) :
    let exact := digits.foldl (fun value digit => value * 10 + (digit.toNat - '0'.toNat)) value
    (∃ result, exact < 2 ^ 63 ∧ digits.foldlM appendDigit word = .ok result ∧
      Stands result exact) ∨
    (2 ^ 63 ≤ exact ∧ digits.foldlM appendDigit word = .error .numberTooLarge) := by
  induction digits generalizing word value with
  | nil =>
      have bounded := word.toInt_lt
      rw [stands] at bounded
      exact .inl ⟨word, by rw [List.foldl_nil]; omega, rfl, stands⟩
  | cons digit digits ih =>
      have isDigit := all digit List.mem_cons_self
      have others : AllDigits digits := fun c mem => all c (List.mem_cons_of_mem _ mem)
      simp only [List.foldl_cons, List.foldlM_cons]
      by_cases small : value * 10 + (digit.toNat - '0'.toNat) < 2 ^ 63
      · obtain ⟨next, step, isNext⟩ := appendDigit_eq_ok stands isDigit small
        rw [step]
        exact ih others isNext
      · have large := Nat.le_of_not_lt small
        rw [appendDigit_eq_error stands isDigit large]
        exact .inr ⟨Nat.le_trans large (le_foldl_digits digits _), rfl⟩

end Digits

/-- Digits are read as a word just when what they write is one. -/
theorem digitsWord_cases {digits : List Char} (all : AllDigits digits) :
    (∃ word, digitsWord digits = .ok word ∧ boundedValue digits = .ok (digitsValue digits) ∧
      Stands word (digitsValue digits)) ∨
    (digitsWord digits = .error .numberTooLarge ∧
      boundedValue digits = .error .numberTooLarge) := by
  have zero : Stands 0 0 := rfl
  rcases foldlM_appendDigit all zero with ⟨word, small, read, stands⟩ | ⟨large, refused⟩
  · have small : digitsValue digits < 2 ^ 63 := small
    exact .inl ⟨word, read, if_pos (by omega), stands⟩
  · have large : 2 ^ 63 ≤ digitsValue digits := large
    exact .inr ⟨refused, if_neg (by omega)⟩

theorem digitsWord_eq_ok {digits : List Char} (all : AllDigits digits)
    (small : digitsValue digits < 2 ^ 63) :
    ∃ word, digitsWord digits = .ok word ∧ Stands word (digitsValue digits) := by
  rcases digitsWord_cases all with ⟨word, read, _, stands⟩ | ⟨_, refused⟩
  · exact ⟨word, read, stands⟩
  · rw [boundedValue, if_pos (by omega)] at refused
    cases refused

/-- So many digits write a number with no more digits. -/
theorem digitsValue_lt {digits : List Char} (all : AllDigits digits) :
    digitsValue digits < 10 ^ digits.length := by
  have grows : ∀ value, digits.foldl
      (fun value digit => value * 10 + (digit.toNat - '0'.toNat)) value <
      (value + 1) * 10 ^ digits.length := by
    induction digits with
    | nil => simp
    | cons digit digits ih =>
        intro value
        have unit := digit_le_nine (all digit List.mem_cons_self)
        have others : AllDigits digits := fun c mem => all c (List.mem_cons_of_mem _ mem)
        rw [List.foldl_cons, List.length_cons, Nat.pow_succ']
        refine Nat.lt_of_lt_of_le (ih others _) ?_
        rw [← Nat.mul_assoc]
        exact Nat.mul_le_mul_right _ (by omega)
  have grown := grows 0
  rwa [Nat.zero_add, Nat.one_mul] at grown

/-! ## Spans -/

/-- A result that was checked. -/
def checked {α : Type} (result : Except NotationFault α) : ExceptT NotationFault Option α :=
  ExceptT.mk (some result)

/-- A result that is not checked: where there is no exact one, there is nothing. -/
def unchecked (result : Option Int64) : ExceptT NotationFault Option Int64 := ExceptT.lift result

theorem checked_bind_ok {α β : Type} (value : α) (next : α → ExceptT NotationFault Option β) :
    (checked (.ok value) >>= next) = next value := rfl

/-- Work on the word of some digits gives what work on their number gives. -/
theorem checked_digitsWord_bind {α : Type} {digits : List Char} (all : AllDigits digits)
    {inWords : Int64 → ExceptT NotationFault Option α} {exactly : Nat → Except NotationFault α}
    (same : ∀ word value, Stands word value → inWords word = checked (exactly value)) :
    (checked (digitsWord digits) >>= inWords) = checked (boundedValue digits >>= exactly) := by
  rcases digitsWord_cases all with ⟨word, read, bounded, stands⟩ | ⟨read, bounded⟩
  · rw [read, bounded]
    exact same word _ stands
  · rw [read, bounded]
    rfl

theorem unchecked_bind_some {β : Type} (word : Int64)
    (next : Int64 → ExceptT NotationFault Option β) :
    (unchecked (some word) >>= next) = next word := rfl

namespace SpanNotation

/-- The span of so many days, seconds and nanoseconds; every step is checked. -/
def sumInWords? (days clock nanoseconds : Int64) : Option TimeSpan := do
  let total ← wordSum? (← wordProduct? days 86400) clock
  let whole ← TimeSpan.ofNanoseconds? (total.toInt * 1000000000)
  whole.add? (← TimeSpan.ofNanoseconds? nanoseconds.toInt)

/-- The span that the digits write, computed in words. -/
def valueInWords (span : SpanNotation) : ExceptT NotationFault Option TimeSpan := do
  if 9 < span.fraction.length then checked (.error .fractionTooLong)
  else
    let fraction ← checked (digitsWord span.fraction)
    let scale ← unchecked (wordPower? 10 (9 - span.fraction.length))
    let nanoseconds ← unchecked (wordProduct? fraction scale)
    let days ← checked (digitsWord span.days)
    let hours ← checked (digitsWord span.hours)
    let minutes ← checked (digitsWord span.minutes)
    let seconds ← checked (digitsWord span.seconds)
    if 24 ≤ hours ∨ 60 ≤ minutes ∨ 60 ≤ seconds then checked (.error .clockOutOfRange)
    else
      let ofHours ← unchecked (wordProduct? hours 3600)
      let ofMinutes ← unchecked (wordProduct? minutes 60)
      let clock ← unchecked (wordSum? ofHours ofMinutes)
      let clock ← unchecked (wordSum? clock seconds)
      match sumInWords? days clock nanoseconds with
      | some span => return span
      | none => checked (.error .spanOutOfRange)

/-- A sum of two parts is checked like the whole: neither part is longer than it. -/
theorem ofNanoseconds?_add (left right : Nat) :
    ((TimeSpan.ofNanoseconds? left).bind fun whole =>
      (TimeSpan.ofNanoseconds? right).bind whole.add?) =
      TimeSpan.ofNanoseconds? (left + right : Nat) := by
  refine Option.ext fun span => ?_
  simp only [Option.bind_eq_some_iff, TimeSpan.add?, TimeSpan.ofNanoseconds?_eq_some]
  constructor
  · rintro ⟨whole, isWhole, rest, isRest, isSum⟩
    rw [isSum, isWhole, isRest, Int.natCast_add]
  · intro exact
    have most := span.in_range.2
    rw [exact] at most
    have inside : ∀ part : Nat, part ≤ left + right →
        -TimeSpan.limit ≤ part ∧ (part : Int) ≤ TimeSpan.limit := by
      intro part less
      simp only [TimeSpan.limit] at most ⊢
      omega
    refine ⟨⟨left, inside _ (Nat.le_add_right _ _)⟩, rfl,
      ⟨right, inside _ (Nat.le_add_left _ _)⟩, rfl, ?_⟩
    rw [exact, Int.natCast_add]

/-- The checks of the sum leave out the spans that are too long, and no others. -/
theorem sumInWords?_eq {days clock nanoseconds : Int64} {days' clock' nanoseconds' : Nat}
    (isDays : Stands days days') (isClock : Stands clock clock')
    (isFraction : Stands nanoseconds nanoseconds') :
    sumInWords? days clock nanoseconds = TimeSpan.ofNanoseconds?
      ((days' * 86400 + clock') * 1000000000 + nanoseconds' : Nat) := by
  have perDay : Stands 86400 86400 := rfl
  by_cases fits : days' * 86400 < 2 ^ 63 ∧ days' * 86400 + clock' < 2 ^ 63
  · obtain ⟨daySeconds, product, isProduct⟩ := exists_wordProduct? isDays perDay fits.1
    obtain ⟨total, sum, isTotal⟩ := exists_wordSum? isProduct isClock fits.2
    have whole : total.toInt * 1000000000 = ((days' * 86400 + clock') * 1000000000 : Nat) := by
      rw [isTotal, Int.natCast_mul]
      rfl
    simp only [sumInWords?, product, sum, Option.bind_eq_bind, Option.bind_some]
    rw [whole, isFraction]
    exact ofNanoseconds?_add _ _
  · have missing : TimeSpan.ofNanoseconds?
        ((days' * 86400 + clock') * 1000000000 + nanoseconds' : Nat) = none := by
      refine dif_neg fun inside => ?_
      simp only [TimeSpan.limit] at inside
      omega
    rw [missing]
    by_cases small : days' * 86400 < 2 ^ 63
    · obtain ⟨daySeconds, product, isProduct⟩ := exists_wordProduct? isDays perDay small
      have sum := wordSum?_eq_none isProduct isClock (by omega)
      simp only [sumInWords?, product, sum, Option.bind_eq_bind, Option.bind_some,
        Option.bind_none]
    · have product := wordProduct?_eq_none isDays perDay (by omega)
      simp only [sumInWords?, product, Option.bind_eq_bind, Option.bind_none]

/-- A fraction of nine digits or less is scaled to nanoseconds without leaving the words. -/
theorem fraction_inWords {digits : List Char} (all : AllDigits digits) (short : digits.length ≤ 9) :
    ∃ word scale nanoseconds, digitsWord digits = .ok word ∧
      wordPower? 10 (9 - digits.length) = some scale ∧
      wordProduct? word scale = some nanoseconds ∧
      Stands nanoseconds (digitsValue digits * Nat.pow 10 (9 - digits.length)) := by
  have bounded := digitsValue_lt all
  have most : 10 ^ digits.length ≤ 10 ^ 9 := Nat.pow_le_pow_right (by decide) short
  have least : 10 ^ (9 - digits.length) ≤ 10 ^ 9 :=
    Nat.pow_le_pow_right (by decide) (Nat.sub_le _ _)
  have power : 10 ^ digits.length * 10 ^ (9 - digits.length) = 10 ^ 9 := by
    rw [← Nat.pow_add, Nat.add_sub_cancel' short]
  have positive : 0 < 10 ^ (9 - digits.length) := Nat.pow_pos (by decide)
  have scaled := Nat.mul_lt_mul_of_pos_right bounded positive
  rw [power] at scaled
  obtain ⟨word, read, stands⟩ := digitsWord_eq_ok all (by omega)
  have ten : Stands 10 10 := rfl
  obtain ⟨scale, isPower, isScale⟩ :
      ∃ scale, wordPower? 10 (9 - digits.length) = some scale ∧
        Stands scale (10 ^ (9 - digits.length)) := exists_wordPower? ten (by omega)
  obtain ⟨nanoseconds, product, isProduct⟩ := exists_wordProduct? stands isScale (by omega)
  exact ⟨word, scale, nanoseconds, read, isPower, product, isProduct⟩

variable {span : SpanNotation}

/-- No step that is not checked leaves the words. -/
theorem valueInWords_eq (days : AllDigits span.days) (hours : AllDigits span.hours)
    (minutes : AllDigits span.minutes) (seconds : AllDigits span.seconds)
    (fraction : AllDigits span.fraction) : span.valueInWords = checked span.value := by
  unfold valueInWords value
  by_cases long : 9 < span.fraction.length
  · rw [if_pos long, if_pos long]
    rfl
  rw [if_neg long, if_neg long]
  have short : span.fraction.length ≤ 9 := Nat.le_of_not_lt long
  obtain ⟨fractionWord, scale, nanoseconds, readFraction, isPower, product, isNanoseconds⟩ :=
    fraction_inWords fraction short
  simp only [readFraction, isPower, product, checked_bind_ok, unchecked_bind_some]
  refine checked_digitsWord_bind days fun dayWord days isDays => ?_
  refine checked_digitsWord_bind hours fun hourWord hours isHours => ?_
  refine checked_digitsWord_bind minutes fun minuteWord minutes isMinutes => ?_
  refine checked_digitsWord_bind seconds fun secondWord seconds isSeconds => ?_
  have clockRange : (24 ≤ hourWord ∨ 60 ≤ minuteWord ∨ 60 ≤ secondWord) ↔
      (24 ≤ hours ∨ 60 ≤ minutes ∨ 60 ≤ seconds) := by
    have bounds : (24 : Int64).toInt = 24 ∧ (60 : Int64).toInt = 60 := by decide
    rw [isHours.le_iff, isMinutes.le_iff, isSeconds.le_iff, bounds.1, bounds.2]
    omega
  by_cases outside : 24 ≤ hours ∨ 60 ≤ minutes ∨ 60 ≤ seconds
  · rw [if_pos (clockRange.2 outside), if_pos outside]
    rfl
  rw [if_neg fun inWords => outside (clockRange.1 inWords), if_neg outside]
  have perHour : Stands 3600 3600 := rfl
  have perMinute : Stands 60 60 := rfl
  obtain ⟨ofHours, hourProduct, isOfHours⟩ := exists_wordProduct? isHours perHour (by omega)
  obtain ⟨ofMinutes, minuteProduct, isOfMinutes⟩ :=
    exists_wordProduct? isMinutes perMinute (by omega)
  obtain ⟨whole, wholeSum, isWhole⟩ := exists_wordSum? isOfHours isOfMinutes (by omega)
  obtain ⟨clock, clockSum, isClock⟩ := exists_wordSum? isWhole isSeconds (by omega)
  simp only [hourProduct, minuteProduct, wholeSum, clockSum, unchecked_bind_some,
    sumInWords?_eq isDays isClock isNanoseconds]
  have same : days * 86400 + (hours * 3600 + minutes * 60 + seconds) =
      days * 86400 + hours * 3600 + minutes * 60 + seconds := by omega
  rw [same]
  generalize TimeSpan.ofNanoseconds? _ = total?
  cases total? <;> rfl

end SpanNotation

namespace TimeSpan

open SpanNotation (read? sumInWords? valueInWords)

/-- The span that a text writes without a sign, computed in words.  What follows a span is looked
at only when its value is there. -/
def unsignedInWords (text : List Char) : Option (Option TimeSpan) :=
  if text ≠ [] ∧ text.all Char.isDigit then
    some ((digitsWord text).toOption.bind fun days => sumInWords? days 0 0)
  else
    match read? true text with
    | some (span, rest) =>
      span.valueInWords.run.map fun value => if rest = [] then value.toOption else none
    | none => some none

/-- The span that a text writes, computed in words. -/
def ofTextInWords (text : String) : Option (Except ReadingFault TimeSpan) :=
  let span :=
    match Text.trim text.toList with
    | '-' :: digits => (unsignedInWords digits).map (Option.map negate)
    | digits => unsignedInWords digits
  span.map fun span => span.elim (.error (.noTimeSpan text)) .ok

theorem unsignedInWords_eq (text : List Char) : unsignedInWords text = some (ofUnsigned? text) := by
  unfold unsignedInWords ofUnsigned?
  split
  · next digits =>
    have all : AllDigits text := List.all_eq_true.1 digits.2
    have zero : Stands 0 0 := rfl
    rcases digitsWord_cases all with ⟨days, read, _, isDays⟩ | ⟨refused, bounded⟩
    · rw [read, Except.toOption, Option.bind_some, SpanNotation.sumInWords?_eq isDays zero zero]
      simp [ofDays?]
    · have large : 0x7FFFFFFFFFFFFFFF < digitsValue text := by
        by_contra small
        rw [boundedValue, if_pos (Nat.le_of_not_lt small)] at bounded
        cases bounded
      have missing : ofDays? (digitsValue text) = none := by
        refine dif_neg fun inside => ?_
        simp only [limit] at inside
        omega
      rw [refused, missing]
      rfl
  · cases reads : read? true text with
    | none => rfl
    | some found =>
        obtain ⟨span, rest⟩ := found
        obtain ⟨written, _⟩ := SpanNotation.wellWritten_of_read? reads
        have exact := SpanNotation.valueInWords_eq written.days written.hours written.minutes
          written.seconds written.fraction
        simp only [exact]
        cases rest <;> rfl

/-- A text is read as a span alike with exact numbers and with words. -/
theorem ofTextInWords_eq (text : String) : ofTextInWords text = some (ofText text) := by
  unfold ofTextInWords ofText
  generalize Text.trim text.toList = trimmed
  split
  · simp only [unsignedInWords_eq, Option.map_some]
  · next noSign => simp only [unsignedInWords_eq, Option.map_some]

end TimeSpan

end RecordQuery
