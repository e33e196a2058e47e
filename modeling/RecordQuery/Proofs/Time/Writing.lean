import RecordQuery.Proofs.Grammar.Spacing

/-!
# Reading back what a notation writes

A span or a point in time that was read from a text is well written (`SpanNotation.WellWritten`,
`PointNotation.WellWritten`): its parts are digits, and those that have to be there are there.
Conversely the text of a well written notation is read back as the same notation, whatever stood
behind it where it was read first, provided that the text breaks off there (`Text.Broken`): it ends
or goes on with a line feed.

Nothing of the original text is needed for that, so a reader that looks ahead cannot tell the two
places apart.
-/

set_option autoImplicit false

namespace RecordQuery

open Text (digitRun markedDigits)

namespace Text

/-- Digits of ASCII and nothing else. -/
def AllDigits (text : List Char) : Prop := ∀ c ∈ text, c.isDigit = true

/-- A text that does not begin with a digit. -/
def NoDigit (text : List Char) : Prop := ∀ c more, text = c :: more → c.isDigit = false

/-- A text that is empty or begins with a line feed. -/
inductive Broken : List Char → Prop
  | nil : Broken []
  | newline {more : List Char} : Broken ('\n' :: more)

theorem noDigit_cons {c : Char} {text : List Char} (other : c.isDigit = false) :
    NoDigit (c :: text) := by
  rintro _ _ ⟨⟩
  exact other

theorem Broken.noDigit {text : List Char} (broken : Broken text) : NoDigit text := by
  cases broken with
  | nil => nofun
  | newline => exact noDigit_cons rfl

theorem Broken.ne {text : List Char} {mark : Char} (broken : Broken text) (other : mark ≠ '\n') :
    ∀ c more, text = c :: more → c ≠ mark := by
  cases broken with
  | nil => nofun
  | newline =>
      rintro _ _ ⟨⟩
      exact other.symm

theorem allDigits_nil : AllDigits [] := by
  rintro _ ⟨⟩

theorem allDigits_digitRun (text : List Char) : AllDigits (digitRun text).1 :=
  fun _ mem => List.mem_takeWhile_imp mem

theorem digitRun_cons_ne_nil {c : Char} (digit : c.isDigit = true) (text : List Char) :
    (digitRun (c :: text)).1 ≠ [] := by
  rw [digitRun, List.takeWhile_cons_of_pos digit]
  exact List.cons_ne_nil _ _

variable {digits tail : List Char}

/-- Digits are read up to something else. -/
theorem digitRun_append_noDigit (all : AllDigits digits) (ends : NoDigit tail) :
    digitRun (digits ++ tail) = (digits, tail) := by
  unfold digitRun
  rw [List.takeWhile_append_of_pos all, List.dropWhile_append_of_pos all]
  cases tail with
  | nil => simp
  | cons c more => simp [ends c more rfl]

theorem allDigits_markedDigits (mark : Char) (text : List Char) :
    AllDigits (markedDigits mark text).1 := by
  unfold markedDigits
  cases text with
  | nil => exact allDigits_nil
  | cons c more =>
      simp only
      split
      · exact allDigits_digitRun more
      · exact allDigits_nil

theorem markedDigits_of_ne {mark : Char} {text : List Char}
    (other : ∀ c more, text = c :: more → c ≠ mark) : markedDigits mark text = ([], text) := by
  unfold markedDigits
  cases text with
  | nil => rfl
  | cons c more => exact if_neg fun both => other c more rfl both.1

/-- Marked digits are read back; if there are none, the text must not go on with the mark. -/
theorem markedDigits_markedChars {mark : Char} (all : AllDigits digits) (ends : NoDigit tail)
    (other : digits = [] → ∀ c more, tail = c :: more → c ≠ mark) :
    markedDigits mark (SpanNotation.markedChars mark digits ++ tail) = (digits, tail) := by
  unfold SpanNotation.markedChars
  split
  · next empty =>
    rw [List.nil_append, markedDigits_of_ne (other empty), empty]
  · next written =>
    rw [List.cons_append, markedDigits, digitRun_append_noDigit all ends]
    exact if_pos ⟨rfl, written⟩

end Text

open Text (AllDigits NoDigit Broken)

/-! ## Spans -/

namespace SpanNotation

/-- The parts of a span are digits.  Hours and minutes are there, seconds are where there are days
or a fraction. -/
structure WellWritten (span : SpanNotation) : Prop where
  days : AllDigits span.days
  hours : AllDigits span.hours
  minutes : AllDigits span.minutes
  seconds : AllDigits span.seconds
  fraction : AllDigits span.fraction
  has_hours : span.hours ≠ []
  has_minutes : span.minutes ≠ []
  seconds_of_days : span.days ≠ [] → span.seconds ≠ []
  seconds_of_fraction : span.fraction ≠ [] → span.seconds ≠ []

variable {text tail rest : List Char} {span : SpanNotation} {allowDays : Bool}

theorem allDigits_readDays (text : List Char) : AllDigits (readDays text).1 := by
  unfold readDays
  simp only
  split
  · split
    · exact Text.allDigits_digitRun text
    · exact Text.allDigits_nil
  · exact Text.allDigits_nil

theorem wellWritten_of_read? (reads : read? allowDays text = some (span, rest)) :
    span.WellWritten ∧ (allowDays = false → span.days = []) := by
  have days : AllDigits (if allowDays then readDays text else ([], text)).1 := by
    split
    · exact allDigits_readDays text
    · exact Text.allDigits_nil
  have noDays : allowDays = false → (if allowDays then readDays text else ([], text)).1 = [] := by
    rintro rfl
    rfl
  simp only [read?] at reads
  generalize (if allowDays = true then readDays text else ([], text)) = afterDays at *
  split at reads
  · cases reads
  · next written =>
    cases reads
    simp only [not_or, not_and] at written
    refine ⟨?_, noDays⟩
    exact {
      days
      hours := Text.allDigits_digitRun _
      minutes := Text.allDigits_markedDigits _ _
      seconds := Text.allDigits_markedDigits _ _
      fraction := by
        simp only
        split
        · exact Text.allDigits_nil
        · exact Text.allDigits_markedDigits _ _
      has_hours := written.1
      has_minutes := written.2.1
      seconds_of_days := written.2.2
      seconds_of_fraction := fun some empty => some (congrArg Prod.fst (if_pos empty)) }

theorem chars_length_pos (span : SpanNotation) : 0 < span.chars.length := by
  simp only [chars, List.length_append, List.length_cons]
  omega

theorem noDigit_markedChars {mark : Char} {digits : List Char} (other : mark.isDigit = false)
    (ends : NoDigit tail) : NoDigit (markedChars mark digits ++ tail) := by
  unfold markedChars
  split
  · exact ends
  · exact Text.noDigit_cons other

/-- The days of a span are told from its hours by the point behind them. -/
theorem readDays_chars (written : span.WellWritten) :
    readDays ((if span.days = [] then [] else span.days ++ ['.']) ++
      (span.hours ++ ':' :: tail)) = (span.days, span.hours ++ ':' :: tail) := by
  have colon : NoDigit (':' :: tail) := Text.noDigit_cons rfl
  have point : NoDigit ('.' :: (span.hours ++ ':' :: tail)) := Text.noDigit_cons rfl
  have hours := Text.digitRun_append_noDigit written.hours colon
  have days := Text.digitRun_append_noDigit written.days point
  by_cases empty : span.days = []
  · rw [if_pos empty, empty, List.nil_append]
    simp [readDays, hours]
  · rw [if_neg empty, List.append_assoc, List.singleton_append]
    simp only [readDays, days, hours, List.head?_cons]
    exact if_pos ⟨empty, written.has_hours, trivial⟩

/-- A well written span is read back where the text breaks off behind it. -/
theorem read?_chars_append (written : span.WellWritten) (days : allowDays = false → span.days = [])
    (broken : Broken tail) : read? allowDays (span.chars ++ tail) = some (span, tail) := by
  let afterSeconds := markedChars '.' span.fraction ++ tail
  let afterMinutes := markedChars ':' span.seconds ++ afterSeconds
  let afterDays := span.hours ++ ':' :: (span.minutes ++ afterMinutes)
  have text : span.chars ++ tail =
      (if span.days = [] then [] else span.days ++ ['.']) ++ afterDays := by
    simp only [chars, List.append_assoc, List.cons_append, afterDays, afterMinutes, afterSeconds]
  have noDigit : NoDigit afterSeconds := noDigit_markedChars rfl broken.noDigit
  have fraction : (if span.seconds = [] then ([], afterSeconds)
      else markedDigits '.' afterSeconds) = (span.fraction, tail) := by
    split
    · next empty =>
      have noFraction : span.fraction = [] := by
        by_contra some
        exact written.seconds_of_fraction some empty
      simp [afterSeconds, noFraction, markedChars]
    · exact Text.markedDigits_markedChars written.fraction broken.noDigit
        fun _ => broken.ne (by decide)
  have seconds : markedDigits ':' afterMinutes = (span.seconds, afterSeconds) := by
    refine Text.markedDigits_markedChars written.seconds noDigit fun empty => ?_
    -- Without seconds there is no fraction, so the text breaks off here.
    rw [if_pos empty, Prod.mk.injEq] at fraction
    rw [fraction.2]
    exact broken.ne (by decide)
  have minutes : markedDigits ':' (':' :: (span.minutes ++ afterMinutes)) =
      (span.minutes, afterMinutes) := by
    have ends : NoDigit afterMinutes := noDigit_markedChars rfl noDigit
    have marked : markedDigits ':' (markedChars ':' span.minutes ++ afterMinutes) =
        (span.minutes, afterMinutes) :=
      Text.markedDigits_markedChars written.minutes ends
        fun empty => absurd empty written.has_minutes
    rwa [markedChars, if_neg written.has_minutes] at marked
  have hours : digitRun afterDays = (span.hours, ':' :: (span.minutes ++ afterMinutes)) :=
    Text.digitRun_append_noDigit written.hours (Text.noDigit_cons rfl)
  have begins : (if allowDays = true then readDays (span.chars ++ tail)
      else ([], span.chars ++ tail)) = (span.days, afterDays) := by
    rw [text]
    cases allowDays with
    | true => exact readDays_chars written
    | false => rw [days rfl]; rfl
  simp only [read?, begins, hours, minutes, seconds, fraction]
  refine if_neg ?_
  simp only [not_or, not_and]
  exact ⟨written.has_hours, written.has_minutes, written.seconds_of_days⟩

/-- Digits are no span where neither a colon follows nor a point and more digits before a colon. -/
theorem read?_digits {digits : List Char} (all : AllDigits digits) (ends : NoDigit tail)
    (noColon : ∀ c more, tail = c :: more → c ≠ ':')
    (noDays : ∀ more, tail = '.' :: more → (digitRun more).2.head? ≠ some ':') :
    read? allowDays (digits ++ tail) = none := by
  have run := Text.digitRun_append_noDigit all ends
  have days : readDays (digits ++ tail) = ([], digits ++ tail) := by
    rw [readDays, run]
    simp only
    split
    · next more =>
      exact if_neg fun both => noDays more rfl both.2.2
    · rfl
  have minutes := Text.markedDigits_of_ne noColon
  simp [read?, days, run, minutes]

end SpanNotation

/-! ## Points in time -/

namespace PointNotation

/-- The parts of a point in time are digits, as many as a date has, and the time of day is a well
written span without days. -/
structure WellWritten (point : PointNotation) : Prop where
  year : AllDigits point.year
  month : AllDigits point.month
  day : AllDigits point.day
  lengths : point.year.length = 4 ∧ point.month.length = 2 ∧ point.day.length = 2
  clock : ∀ clock, point.clock = some clock → clock.WellWritten ∧ clock.days = []

variable {text tail rest : List Char} {point : PointNotation}

theorem wellWritten_of_read? (reads : read? text = some (point, rest)) : point.WellWritten := by
  simp only [read?] at reads
  split at reads
  · next lengths =>
    have year := Text.allDigits_digitRun text
    have month := Text.allDigits_markedDigits '-' (digitRun text).2
    have day := Text.allDigits_markedDigits '-' (markedDigits '-' (digitRun text).2).2
    split at reads
    · split at reads
      · next clock left clockRead =>
        cases reads
        obtain ⟨written, noDays⟩ := SpanNotation.wellWritten_of_read? clockRead
        refine ⟨year, month, day, lengths, ?_⟩
        rintro _ ⟨⟩
        exact ⟨written, noDays rfl⟩
      · cases reads
        exact ⟨year, month, day, lengths, by rintro _ ⟨⟩⟩
    · cases reads
      exact ⟨year, month, day, lengths, by rintro _ ⟨⟩⟩
  · cases reads

/-- The date of a well written point in time is read up to something other than a digit, and the
time of day is looked for behind it. -/
theorem read?_date (written : point.WellWritten) : NoDigit tail →
    read? (point.year ++ '-' :: (point.month ++ '-' :: (point.day ++ tail))) =
      match tail with
      | ' ' :: more =>
        match SpanNotation.read? false more with
        | some (clock, rest) => some (⟨point.year, point.month, point.day, some clock⟩, rest)
        | none => some (⟨point.year, point.month, point.day, none⟩, tail)
      | _ => some (⟨point.year, point.month, point.day, none⟩, tail) := by
  intro noDigit
  obtain ⟨yearDigits, monthDigits, dayDigits, lengths, _⟩ := written
  have years : digitRun (point.year ++ '-' :: (point.month ++ '-' :: (point.day ++ tail))) =
      (point.year, '-' :: (point.month ++ '-' :: (point.day ++ tail))) :=
    Text.digitRun_append_noDigit yearDigits (Text.noDigit_cons rfl)
  have marked : ∀ {digits left : List Char}, AllDigits digits → digits.length = 2 →
      NoDigit left → markedDigits '-' ('-' :: (digits ++ left)) = (digits, left) := by
    intro digits left all length ends
    have some : digits ≠ [] := by
      rintro rfl
      cases length
    have read : markedDigits '-' (SpanNotation.markedChars '-' digits ++ left) = (digits, left) :=
      Text.markedDigits_markedChars all ends fun empty => absurd empty some
    rwa [SpanNotation.markedChars, if_neg some] at read
  have dash : NoDigit ('-' :: (point.day ++ tail)) := Text.noDigit_cons rfl
  have months := marked monthDigits lengths.2.1 dash
  have days := marked dayDigits lengths.2.2 noDigit
  simp only [read?, years, months, days]
  exact if_pos lengths

/-- The text of a point in time, with what follows its date at the end. -/
theorem chars_append (point : PointNotation) (tail : List Char) :
    point.chars ++ tail = point.year ++ '-' :: (point.month ++ '-' :: (point.day ++
      (point.clock.elim [] (fun clock => ' ' :: clock.chars) ++ tail))) := by
  obtain ⟨year, month, day, clock⟩ := point
  cases clock <;> simp [chars]

/-- A well written point in time is read back where the text breaks off behind it. -/
theorem read?_chars_append (written : point.WellWritten) (broken : Broken tail) :
    read? (point.chars ++ tail) = some (point, tail) := by
  rw [chars_append]
  obtain ⟨year, month, day, clock⟩ := point
  cases clock with
  | none =>
      refine (read?_date written broken.noDigit).trans ?_
      cases broken with
      | nil => rfl
      | newline => rfl
  | some clock =>
      obtain ⟨clockWritten, noDays⟩ := written.clock clock rfl
      have read : SpanNotation.read? false (clock.chars ++ tail) = some (clock, tail) :=
        SpanNotation.read?_chars_append clockWritten (fun _ => noDays) broken
      refine (read?_date written (Text.noDigit_cons rfl)).trans ?_
      simp [read]

theorem chars_length_pos (point : PointNotation) : 0 < point.chars.length := by
  simp only [chars, List.length_append, List.length_cons]
  omega

/-- A point in time is no span. -/
theorem span_read?_chars (written : point.WellWritten) (tail : List Char) :
    SpanNotation.read? true (point.chars ++ tail) = none := by
  rw [chars]
  simp only [List.append_assoc, List.cons_append]
  refine SpanNotation.read?_digits written.year (Text.noDigit_cons rfl) ?_ ?_
  · rintro _ _ ⟨⟩
    decide
  · rintro _ same
    cases (List.cons.inj same).1

/-- Digits without a dash behind them are no point in time. -/
theorem read?_digits {digits : List Char} (all : AllDigits digits) (ends : NoDigit tail)
    (noDash : ∀ c more, tail = c :: more → c ≠ '-') : read? (digits ++ tail) = none := by
  have month := Text.markedDigits_of_ne noDash
  simp [read?, Text.digitRun_append_noDigit all ends, month]

end PointNotation

end RecordQuery
