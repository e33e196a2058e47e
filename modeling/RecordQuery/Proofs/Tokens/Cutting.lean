import RecordQuery.Proofs.Tokens.Respacing

/-!
# Texts that are cut

A parenthesis or a `$` is put into a text.  What stands before it is read as before
(`Lexeme.read_cut`), although the readers of numbers and times look far ahead: what one of them sees
now is less than before, and neither belongs to any of the shapes that they look for.  So a shape
that is found in the cut text was there in the whole text as well (`Munches.exists_of_cut`), and a
shape that was found before the cut is found again (`Munches.cut`).

The cut must not go through digits, for a date that is followed by a digit is none.  No token ends
within digits (`Lexeme.uncut_read`), so this holds wherever a token ends.  And a `$` must not stand
right behind a run of `$`.
-/

set_option autoImplicit false

namespace RecordQuery

open Text (digitRun markedDigits AllDigits NoDigit)

/-! ## Cuts -/

namespace Text

/-- A text that begins with a parenthesis. -/
inductive Shut : List Char → Prop
  | opening {more : List Char} : Shut ('(' :: more)
  | closing {more : List Char} : Shut (')' :: more)

/-- The characters at the cuts: parentheses, and the `$` that begins a run of its own. -/
def haltMarks : List Char := ['(', ')', '$']

/-- A text that begins with one of the characters at cuts. -/
inductive Halted : List Char → Prop
  | intro {c : Char} {more : List Char} (halts : c ∈ haltMarks) : Halted (c :: more)

/-- None of the characters at cuts is in the text. -/
def Bare (text : List Char) : Prop := ∀ c ∈ haltMarks, c ∉ text

/-- No run of digits goes on from the first text into the second one. -/
def Uncut (kept dropped : List Char) : Prop :=
  NoDigit dropped ∨ ∀ c ∈ kept.getLast?, c.isDigit = false

variable {kept dropped tail front : List Char} {p : Char → Bool}

theorem Shut.halted (shut : Shut tail) : Halted tail := by
  cases shut with
  | opening => exact .intro (by decide)
  | closing => exact .intro (by decide)

theorem Halted.noDigit (halted : Halted tail) : NoDigit tail := by
  obtain ⟨halts⟩ := halted
  have outside : haltMarks.any Char.isDigit = false := rfl
  exact noDigit_cons (Bool.eq_false_iff.2 (List.any_eq_false.1 outside _ halts))

theorem Bare.of_forall {text : List Char} (outside : haltMarks.any p = false)
    (all : ∀ c ∈ text, p c = true) : Bare text :=
  fun c halts mem => List.any_eq_false.1 outside c halts (all c mem)

theorem Bare.append {left right : List Char} (bare : Bare left) (bare' : Bare right) :
    Bare (left ++ right) :=
  fun c halts mem => (List.mem_append.1 mem).elim (bare c halts) (bare' c halts)

theorem Bare.cons {c : Char} {text : List Char} (other : c ∉ haltMarks) (bare : Bare text) :
    Bare (c :: text) := by
  rintro d halts (_ | ⟨_, mem⟩)
  · exact other halts
  · exact bare d halts mem

theorem AllDigits.bare {text : List Char} (all : AllDigits text) : Bare text :=
  .of_forall (by decide) all

/-- A front without the characters at cuts ends before the cut. -/
theorem prefix_of_bare (halted : Halted tail) (bare : Bare front)
    (begins : front <+: kept ++ tail) : front <+: kept := by
  induction kept generalizing front with
  | nil =>
      cases front with
      | nil => exact List.nil_prefix
      | cons c front =>
          obtain ⟨halts⟩ := halted
          obtain ⟨rfl, _⟩ := List.cons_prefix_cons.1 begins
          exact absurd List.mem_cons_self (bare c halts)
  | cons c kept ih =>
      cases front with
      | nil => exact List.nil_prefix
      | cons d front =>
          obtain ⟨rfl, further⟩ := List.cons_prefix_cons.1 begins
          refine List.cons_prefix_cons.2 ⟨rfl, ih (fun e halts mem => ?_) further⟩
          exact bare e halts (List.mem_cons_of_mem _ mem)

/-- A run that ends before the cut is the same run in the cut text, if it cannot go on there. -/
theorem takeWhile_stop {c : Char} {more : List Char} (outside : p c = false)
    (inside : ((kept ++ dropped).takeWhile p).length ≤ kept.length) :
    (kept ++ c :: more).takeWhile p = (kept ++ dropped).takeWhile p := by
  induction kept with
  | nil =>
      rw [List.length_eq_zero_iff.1 (Nat.le_zero.1 inside)]
      exact List.takeWhile_cons_of_neg (by simp [outside])
  | cons c kept ih =>
      simp only [List.cons_append, List.takeWhile_cons] at inside ⊢
      cases fits : p c with
      | false => rfl
      | true =>
          simp only [fits, if_true, List.length_cons] at inside ⊢
          rw [ih (Nat.le_of_succ_le_succ inside)]

theorem takeWhile_cut (halted : Halted tail) (outside : haltMarks.any p = false)
    (inside : ((kept ++ dropped).takeWhile p).length ≤ kept.length) :
    (kept ++ tail).takeWhile p = (kept ++ dropped).takeWhile p := by
  obtain ⟨halts⟩ := halted
  exact takeWhile_stop (Bool.eq_false_iff.2 (List.any_eq_false.1 outside _ halts)) inside

theorem takeWhile_shut (shut : Shut tail) (outside : p '(' = false ∧ p ')' = false)
    (inside : ((kept ++ dropped).takeWhile p).length ≤ kept.length) :
    (kept ++ tail).takeWhile p = (kept ++ dropped).takeWhile p := by
  cases shut with
  | opening => exact takeWhile_stop outside.1 inside
  | closing => exact takeWhile_stop outside.2 inside

/-- A run that ends before the last character that is kept is the same, whatever follows. -/
theorem takeWhile_of_lt (inside : ((kept ++ dropped).takeWhile p).length < kept.length) :
    (kept ++ tail).takeWhile p = (kept ++ dropped).takeWhile p := by
  have shorter : (kept.takeWhile p).length ≠ kept.length := by
    intro whole
    rw [List.takeWhile_append, if_pos whole, List.length_append] at inside
    omega
  rw [List.takeWhile_append, List.takeWhile_append, if_neg shorter, if_neg shorter]

/-- Digits go on with the digits behind them. -/
theorem digitRun_digits_append {digits more : List Char} (all : AllDigits digits) :
    digitRun (digits ++ more) = (digits ++ (digitRun more).1, (digitRun more).2) := by
  simp only [digitRun, List.takeWhile_append_of_pos all, List.dropWhile_append_of_pos all]

theorem length_digitRun_le (text : List Char) : (digitRun text).2.length ≤ text.length := by
  have whole := congrArg List.length (digitRun_split text)
  rw [List.length_append] at whole
  omega

theorem noDigit_digitRun (text : List Char) : NoDigit (digitRun text).2 := by
  rintro c more split
  have other := List.head?_dropWhile_not Char.isDigit text
  rwa [show text.dropWhile Char.isDigit = c :: more from split] at other

/-- Marked digits leave no digit behind them if none is at the front. -/
theorem NoDigit.markedDigits {text : List Char} (ends : NoDigit text) (mark : Char) :
    NoDigit (markedDigits mark text).2 := by
  cases text with
  | nil => nofun
  | cons c more =>
      rw [Text.markedDigits]
      split
      · exact noDigit_digitRun more
      · exact ends

theorem length_markedDigits_le (mark : Char) (text : List Char) :
    (markedDigits mark text).2.length ≤ text.length := by
  have whole := congrArg List.length (markedDigits_split mark text)
  rw [List.length_append] at whole
  omega

/-- Marked digits, and what follows that goes on with them. -/
theorem markedDigits_mark_append {mark : Char} {digits more : List Char} (all : AllDigits digits)
    (some : digits ≠ []) :
    markedDigits mark (mark :: (digits ++ more)) =
      (digits ++ (digitRun more).1, (digitRun more).2) := by
  rw [markedDigits, digitRun_digits_append all]
  exact if_pos ⟨rfl, fun none => some (List.append_eq_nil_iff.1 none).1⟩

/-- Marked digits that end before the cut are the same in the cut text, and where there are none
there are none. -/
theorem markedDigits_cut {mark : Char} (halted : Halted tail) (other : mark ∉ haltMarks)
    (inside : (markedDigits mark (kept ++ dropped)).1 = [] ∨
      (markedDigits mark (kept ++ dropped)).1.length < kept.length) :
    (markedDigits mark (kept ++ tail)).1 = (markedDigits mark (kept ++ dropped)).1 := by
  have marked : ∀ (c : Char) (text : List Char),
      (markedDigits mark (c :: text)).1 = if c = mark then (digitRun text).1 else [] := by
    intro c text
    rw [markedDigits]
    by_cases same : c = mark
    · by_cases none : (digitRun text).1 = []
      · rw [if_neg fun both => both.2 none, if_pos same, none]
      · rw [if_pos ⟨same, none⟩, if_pos same]
    · rw [if_neg fun both => same both.1, if_neg same]
  cases kept with
  | nil =>
      have none := inside.resolve_right (Nat.not_lt_zero _)
      obtain ⟨halts⟩ := halted
      rw [none]
      refine (marked _ _).trans (if_neg ?_)
      rintro rfl
      exact other halts
  | cons c kept =>
      simp only [List.cons_append, marked] at inside ⊢
      split
      · next same =>
        simp only [if_pos same, List.length_cons] at inside
        refine takeWhile_cut halted (by decide) ?_
        rcases inside with none | short
        · exact (congrArg List.length none).trans_le (Nat.zero_le _)
        · exact Nat.le_of_lt_succ short
      · rfl

end Text

open Text (Shut Halted Bare Uncut)

/-! ## Spans -/

namespace SpanNotation

variable {span : SpanNotation} {allowDays : Bool}

theorem WellWritten.bare (written : span.WellWritten) : Bare span.chars := by
  have marked : ∀ {mark : Char} {digits : List Char}, mark ∉ Text.haltMarks →
      AllDigits digits → Bare (markedChars mark digits) := by
    intro mark digits other all
    unfold markedChars
    split
    · exact Text.allDigits_nil.bare
    · exact .cons other all.bare
  have days : Bare (if span.days = [] then [] else span.days ++ ['.']) := by
    split
    · exact Text.allDigits_nil.bare
    · exact written.days.bare.append (.cons (by decide) Text.allDigits_nil.bare)
  unfold chars
  exact (((days.append written.hours.bare).append (.cons (by decide) written.minutes.bare)).append
    (marked (by decide) written.seconds)).append (marked (by decide) written.fraction)

/-- Behind a character that is no digit there are no digits to go on with. -/
theorem digitRun_cons {c : Char} (other : c.isDigit = false) (text : List Char) :
    digitRun (c :: text) = ([], c :: text) :=
  Text.digitRun_append_noDigit Text.allDigits_nil (Text.noDigit_cons other)

/-- What is read as seconds and as a fraction behind the minutes of a well written span, and how
much is left then. -/
theorem seconds_grow (written : span.WellWritten) {more : List Char}
    {seconds fraction : List Char × List Char}
    (seconds_eq : seconds = markedDigits ':' (digitRun (markedChars ':' span.seconds ++
      (markedChars '.' span.fraction ++ more))).2)
    (fraction_eq : fraction =
      if seconds.1 = [] then ([], seconds.2) else markedDigits '.' seconds.2) :
    (span.days ≠ [] → seconds.1 ≠ []) ∧ fraction.2.length ≤ more.length := by
  by_cases none : span.seconds = []
  · have noFraction : span.fraction = [] := by
      by_contra some
      exact written.seconds_of_fraction some none
    refine ⟨fun some => absurd none (written.seconds_of_days some), ?_⟩
    rw [none, noFraction, markedChars, if_pos rfl, markedChars, if_pos rfl, List.nil_append,
      List.nil_append] at seconds_eq
    have afterDigits := Text.length_digitRun_le more
    have afterSeconds := Text.length_markedDigits_le ':' (digitRun more).2
    have afterFraction := Text.length_markedDigits_le '.' seconds.2
    rw [← seconds_eq] at afterSeconds
    rw [fraction_eq]
    split
    · exact Nat.le_trans afterSeconds afterDigits
    · exact Nat.le_trans afterFraction (Nat.le_trans afterSeconds afterDigits)
  · have colon : ':'.isDigit = false := rfl
    rw [markedChars, if_neg none, List.cons_append, digitRun_cons colon,
      Text.markedDigits_mark_append written.seconds none] at seconds_eq
    have some : seconds.1 ≠ [] := by
      rw [seconds_eq]
      exact fun empty => none (List.append_eq_nil_iff.1 empty).1
    refine ⟨fun _ => some, ?_⟩
    rw [fraction_eq, if_neg some, seconds_eq]
    by_cases noFraction : span.fraction = []
    · rw [noFraction, markedChars, if_pos rfl, List.nil_append]
      exact Nat.le_trans (Text.length_markedDigits_le '.' _) (Text.length_digitRun_le more)
    · have point : '.'.isDigit = false := rfl
      rw [markedChars, if_neg noFraction, List.cons_append, digitRun_cons point,
        Text.markedDigits_mark_append written.fraction noFraction]
      exact Text.length_digitRun_le more

/-- Whatever follows a well written span, it stays a span, and no more is left than what
follows. -/
theorem read?_chars_grows (written : span.WellWritten)
    (days : allowDays = false → span.days = []) (more : List Char) :
    ∃ longer left, read? allowDays (span.chars ++ more) = some (longer, left) ∧
      left.length ≤ more.length := by
  let afterSeconds := markedChars '.' span.fraction ++ more
  let afterMinutes := markedChars ':' span.seconds ++ afterSeconds
  let afterDays := span.hours ++ ':' :: (span.minutes ++ afterMinutes)
  have text : span.chars ++ more =
      (if span.days = [] then [] else span.days ++ ['.']) ++ afterDays := by
    simp only [chars, List.append_assoc, List.cons_append, afterDays, afterMinutes, afterSeconds]
  have begins : (if allowDays = true then readDays (span.chars ++ more)
      else ([], span.chars ++ more)) = (span.days, afterDays) := by
    rw [text]
    cases allowDays with
    | true => exact readDays_chars written
    | false => rw [days rfl]; rfl
  have hours : digitRun afterDays = (span.hours, ':' :: (span.minutes ++ afterMinutes)) :=
    Text.digitRun_append_noDigit written.hours (Text.noDigit_cons rfl)
  have minutes : markedDigits ':' (':' :: (span.minutes ++ afterMinutes)) =
      (span.minutes ++ (digitRun afterMinutes).1, (digitRun afterMinutes).2) :=
    Text.markedDigits_mark_append written.minutes written.has_minutes
  have someMinutes : span.minutes ++ (digitRun afterMinutes).1 ≠ [] :=
    fun none => written.has_minutes (List.append_eq_nil_iff.1 none).1
  obtain ⟨seconds, secondsRead⟩ :
      ∃ seconds, seconds = markedDigits ':' (digitRun afterMinutes).2 := ⟨_, rfl⟩
  obtain ⟨fraction, fractionRead⟩ : ∃ fraction, fraction =
      if seconds.1 = [] then ([], seconds.2) else markedDigits '.' seconds.2 := ⟨_, rfl⟩
  obtain ⟨someSeconds, shorter⟩ := seconds_grow written secondsRead fractionRead
  refine ⟨⟨span.days, span.hours, span.minutes ++ (digitRun afterMinutes).1, seconds.1,
    fraction.1⟩, fraction.2, ?_, shorter⟩
  simp only [read?, begins, hours, minutes, ← secondsRead, ← fractionRead]
  refine if_neg ?_
  simp only [not_or, not_and]
  exact ⟨written.has_hours, someMinutes, someSeconds⟩

end SpanNotation

/-! ## Points in time -/

namespace PointNotation

variable {point : PointNotation}

theorem WellWritten.bare (written : point.WellWritten) : Bare point.chars := by
  have clock : Bare (point.clock.elim [] (fun clock => ' ' :: clock.chars)) := by
    cases same : point.clock with
    | none => exact Text.allDigits_nil.bare
    | some clock => exact .cons (by decide) (written.clock clock same).1.bare
  rw [← List.append_nil point.chars, chars_append, List.append_nil]
  exact written.year.bare.append (.cons (by decide) (written.month.bare.append
    (.cons (by decide) (written.day.bare.append clock))))

/-- Whatever follows a well written point in time, it stays one, unless digits follow the date. -/
theorem read?_chars_grows (written : point.WellWritten) {more : List Char}
    (ends : point.clock = none → NoDigit more) :
    ∃ longer left, read? (point.chars ++ more) = some (longer, left) ∧
      left.length ≤ more.length := by
  rw [chars_append]
  cases timed : point.clock with
  | none =>
      rw [Option.elim_none, List.nil_append, read?_date written (ends timed)]
      split
      · split
        · next rest clock left clockRead =>
          have shorter := congrArg List.length (SpanNotation.eq_chars_append clockRead)
          rw [List.length_append] at shorter
          refine ⟨_, _, rfl, ?_⟩
          rw [List.length_cons]
          omega
        · exact ⟨_, _, rfl, Nat.le_refl _⟩
      · exact ⟨_, _, rfl, Nat.le_refl _⟩
  | some clock =>
      obtain ⟨clockWritten, noDays⟩ := written.clock clock timed
      obtain ⟨longer, left, reads, shorter⟩ :=
        SpanNotation.read?_chars_grows clockWritten (fun _ : false = false => noDays) more
      have blank : NoDigit (' ' :: (clock.chars ++ more)) := Text.noDigit_cons rfl
      have date := read?_date written blank
      rw [Option.elim_some, List.cons_append, date]
      exact ⟨⟨point.year, point.month, point.day, some longer⟩, left, by simp [reads], shorter⟩

/-- A date ends with a digit. -/
theorem exists_last_digit (written : point.WellWritten) (untimed : point.clock = none) :
    ∃ c ∈ point.chars.getLast?, c.isDigit = true := by
  rcases List.eq_nil_or_concat point.day with none | ⟨front, c, split⟩
  · have length := written.lengths.2.2
    rw [none] at length
    cases length
  · refine ⟨c, ?_, written.day c ?_⟩
    · rw [← List.append_nil point.chars, chars_append, untimed, split]
      simp [List.getLast?_cons]
    · rw [split, List.concat_eq_append]
      exact List.mem_concat_self

end PointNotation

/-! ## Shapes -/

/-- A reader of shapes finds as much of one as there is.  A shape that is found holds none of
the characters at cuts, may stand before what is left, and stays one before everything that it may
stand before. -/
structure Munches {α : Type} (reader : List Char → Option (α × List Char))
    (chars : α → List Char) (before : α → List Char → Prop) : Prop where
  split : ∀ {text rest : List Char} {shape : α}, reader text = some (shape, rest) →
    text = chars shape ++ rest
  bare : ∀ {text rest : List Char} {shape : α}, reader text = some (shape, rest) →
    Bare (chars shape)
  stands : ∀ {text rest : List Char} {shape : α}, reader text = some (shape, rest) →
    before shape rest
  grows : ∀ {text rest more : List Char} {shape : α}, reader text = some (shape, rest) →
    before shape more →
    ∃ longer left, reader (chars shape ++ more) = some (longer, left) ∧ left.length ≤ more.length
  injective : ∀ {text rest text' rest' : List Char} {shape shape' : α},
    reader text = some (shape, rest) → reader text' = some (shape', rest') →
    chars shape = chars shape' → shape = shape'

namespace Munches

variable {α : Type} {reader : List Char → Option (α × List Char)} {chars : α → List Char}
  {before : α → List Char → Prop} {kept dropped tail left : List Char} {shape : α}

/-- A shape that is found in a cut text was there before, and maybe more of it. -/
theorem exists_of_cut (munches : Munches reader chars before) (halted : Halted tail)
    (moves : ∀ {shape : α} {behind : List Char}, kept = chars shape ++ behind →
      before shape (behind ++ tail) → before shape (behind ++ dropped))
    (found : reader (kept ++ tail) = some (shape, left)) :
    ∃ longer rest, reader (kept ++ dropped) = some (longer, rest) ∧
      (chars shape).length ≤ (chars longer).length := by
  have whole := munches.split found
  obtain ⟨behind, rfl⟩ := Text.prefix_of_bare halted (munches.bare found) ⟨left, whole.symm⟩
  rw [List.append_assoc] at whole
  obtain rfl := List.append_cancel_left whole
  obtain ⟨longer, rest, reads, shorter⟩ := munches.grows found (moves rfl (munches.stands found))
  refine ⟨longer, rest, by rwa [List.append_assoc], ?_⟩
  have lengths := congrArg List.length (munches.split reads)
  simp only [List.length_append] at lengths shorter
  omega

theorem eq_none_of_cut (munches : Munches reader chars before) (halted : Halted tail)
    (moves : ∀ {shape : α} {behind : List Char}, kept = chars shape ++ behind →
      before shape (behind ++ tail) → before shape (behind ++ dropped))
    (none : reader (kept ++ dropped) = none) : reader (kept ++ tail) = .none := by
  refine Option.eq_none_iff_forall_not_mem.2 fun found mem => ?_
  obtain ⟨longer, rest, reads, _⟩ := munches.exists_of_cut halted moves mem
  cases none.symm.trans reads

/-- A shape that ends before the cut is found in the cut text as well. -/
theorem cut (munches : Munches reader chars before) (halted : Halted tail)
    (moves : ∀ {shape : α} {behind : List Char}, kept = chars shape ++ behind →
      (before shape (behind ++ tail) ↔ before shape (behind ++ dropped)))
    (found : reader (kept ++ dropped) = some (shape, left))
    (inside : (chars shape).length ≤ kept.length) :
    ∃ rest, reader (kept ++ tail) = some (shape, rest) := by
  have whole := munches.split found
  obtain ⟨behind, rfl⟩ : chars shape <+: kept :=
    List.prefix_of_prefix_length_le ⟨left, whole.symm⟩ (List.prefix_append _ _) inside
  rw [List.append_assoc] at whole
  obtain rfl := List.append_cancel_left whole
  obtain ⟨longer, rest, reads, shorter⟩ :=
    munches.grows found ((moves rfl).2 (munches.stands found))
  rw [← List.append_assoc] at reads
  obtain ⟨again, _, reads', bounded⟩ :=
    munches.exists_of_cut halted (fun split => (moves split).1) reads
  cases found.symm.trans reads'
  have front := Text.prefix_of_bare halted (munches.bare reads) ⟨rest, (munches.split reads).symm⟩
  have same : chars longer = chars shape := by
    have lengths := congrArg List.length (munches.split reads)
    simp only [List.length_append] at lengths shorter
    have both := List.prefix_of_prefix_length_le front (List.prefix_append _ _) bounded
    exact both.eq_of_length (by omega)
  rw [munches.injective reads found same] at reads
  exact ⟨rest, reads⟩

end Munches

theorem SpanNotation.munches (allowDays : Bool) :
    Munches (SpanNotation.read? allowDays) SpanNotation.chars fun _ _ => True where
  split := SpanNotation.eq_chars_append
  bare reads := (SpanNotation.wellWritten_of_read? reads).1.bare
  stands _ := trivial
  grows reads _ :=
    have ⟨written, noDays⟩ := SpanNotation.wellWritten_of_read? reads
    SpanNotation.read?_chars_grows written noDays _
  injective := by
    intro text rest text' rest' span span' reads reads' same
    obtain ⟨written, noDays⟩ := SpanNotation.wellWritten_of_read? reads
    obtain ⟨written', noDays'⟩ := SpanNotation.wellWritten_of_read? reads'
    have again := SpanNotation.read?_chars_append written noDays .nil
    rw [same, SpanNotation.read?_chars_append written' noDays' .nil] at again
    cases again
    rfl

/-- A date without a time of day must not stand before a digit. -/
def PointNotation.Before (point : PointNotation) (more : List Char) : Prop :=
  point.WellWritten ∧ (point.clock = none → NoDigit more)

theorem PointNotation.before_of_read? {point : PointNotation} {text rest : List Char}
    (reads : PointNotation.read? text = some (point, rest)) : point.Before rest := by
  refine ⟨PointNotation.wellWritten_of_read? reads, fun untimed => ?_⟩
  simp only [PointNotation.read?] at reads
  split at reads
  · have ends := ((Text.noDigit_digitRun text).markedDigits '-').markedDigits '-'
    split at reads
    · split at reads
      · cases reads
        cases untimed
      · cases reads
        exact ends
    · cases reads
      exact ends
  · cases reads

theorem PointNotation.munches :
    Munches PointNotation.read? PointNotation.chars PointNotation.Before where
  split := PointNotation.eq_chars_append
  bare reads := (PointNotation.wellWritten_of_read? reads).bare
  stands := PointNotation.before_of_read?
  grows _ before := PointNotation.read?_chars_grows before.1 before.2
  injective := by
    intro text rest text' rest' point point' reads reads' same
    have again := PointNotation.read?_chars_append (PointNotation.wellWritten_of_read? reads) .nil
    rw [same, PointNotation.read?_chars_append (PointNotation.wellWritten_of_read? reads') .nil]
      at again
    cases again
    rfl

/-- Where no digits are cut, a point in time may stand before the cut if it could before. -/
theorem PointNotation.before_cut {point : PointNotation} {kept dropped tail behind : List Char}
    (halted : Halted tail) (uncut : Uncut kept dropped) (split : kept = point.chars ++ behind) :
    point.Before (behind ++ tail) ↔ point.Before (behind ++ dropped) := by
  cases behind with
  | cons c behind =>
      have first : ∀ more more', NoDigit (c :: more) ↔ NoDigit (c :: more') := fun _ _ =>
        ⟨fun other => Text.noDigit_cons (other _ _ rfl),
          fun other => Text.noDigit_cons (other _ _ rfl)⟩
      exact and_congr_right fun _ => imp_congr_right fun _ => first _ _
  | nil =>
      rw [List.append_nil] at split
      refine and_congr_right fun written => imp_congr_right fun untimed => ?_
      refine iff_of_true halted.noDigit (uncut.resolve_right fun noDigit => ?_)
      obtain ⟨c, last, digit⟩ := exists_last_digit written untimed
      cases (noDigit c (split ▸ last)).symm.trans digit

/-! ## Lexemes before a cut -/

theorem Text.digitRun_cut {kept dropped tail : List Char} (halted : Halted tail)
    (inside : (digitRun (kept ++ dropped)).1.length ≤ kept.length) :
    ∃ behind, kept = (digitRun (kept ++ dropped)).1 ++ behind ∧
      digitRun (kept ++ dropped) = ((digitRun (kept ++ dropped)).1, behind ++ dropped) ∧
      digitRun (kept ++ tail) = ((digitRun (kept ++ dropped)).1, behind ++ tail) := by
  have run := Text.takeWhile_cut halted (p := Char.isDigit) (by decide) inside
  have whole := digitRun_split (kept ++ dropped)
  have cut := digitRun_split (kept ++ tail)
  have same : (digitRun (kept ++ tail)).1 = (digitRun (kept ++ dropped)).1 := run
  generalize digitRun (kept ++ dropped) = split at *
  generalize digitRun (kept ++ tail) = split' at *
  obtain ⟨digits, rest⟩ := split
  obtain ⟨digits', rest'⟩ := split'
  obtain rfl : digits' = digits := same
  obtain ⟨behind, rfl⟩ : digits' <+: kept :=
    List.prefix_of_prefix_length_le ⟨rest, whole⟩ (List.prefix_append _ _) inside
  rw [List.append_assoc] at whole cut
  obtain rfl := List.append_cancel_left whole
  obtain rfl := List.append_cancel_left cut
  exact ⟨behind, rfl, rfl, rfl⟩

namespace Lexeme

variable {c : Char} {kept dropped tail : List Char} {lexeme : Lexeme}

theorem readPlainNumber_cut (halted : Halted tail)
    (reads : readPlainNumber (kept ++ dropped) = .ok lexeme) (inside : lexeme.more < kept.length) :
    readPlainNumber (kept ++ tail) = .ok lexeme := by
  have short : (digitRun (kept ++ dropped)).1.length ≤ kept.length := by
    simp only [readPlainNumber] at reads
    split at reads
    · cases reads
      simp only [ofDecimal, ofLiteral] at inside
      omega
    split at reads
    · cases reads
      simp only [ofLiteral] at inside
      omega
    · cases reads
  obtain ⟨behind, split, digits, digits'⟩ := Text.digitRun_cut halted short
  have fraction : (markedDigits '.' (behind ++ tail)).1 =
      (markedDigits '.' (behind ++ dropped)).1 := by
    refine Text.markedDigits_cut halted (by decide) (or_iff_not_imp_left.2 fun written => ?_)
    have length := congrArg List.length split
    rw [List.length_append] at length
    rw [readPlainNumber, digits] at reads
    simp only [if_pos written] at reads
    cases reads
    simp only [ofDecimal, ofLiteral] at inside
    omega
  rw [readPlainNumber, digits] at reads
  rw [readPlainNumber, digits', ← reads]
  simp only [fraction]

/-- A number is read alike in a text that is cut behind it. -/
theorem readNumber_cut (halted : Halted tail) (uncut : Uncut kept dropped)
    (reads : readNumber (kept ++ dropped) = .ok lexeme) (inside : lexeme.more < kept.length) :
    readNumber (kept ++ tail) = .ok lexeme := by
  have spans := SpanNotation.munches true
  rw [readNumber] at reads ⊢
  split at reads
  · next span rest found =>
    obtain ⟨more, reads⟩ := ofTime_eq_ok reads
    obtain ⟨rest', found'⟩ := spans.cut halted (fun _ => Iff.rfl) found (by omega)
    simp only [found', reads]
  next noSpan =>
  simp only [spans.eq_none_of_cut halted (fun _ => id) noSpan]
  split at reads
  · next point rest found =>
    obtain ⟨more, reads⟩ := ofTime_eq_ok reads
    obtain ⟨rest', found'⟩ := PointNotation.munches.cut halted
      (PointNotation.before_cut halted uncut) found (by omega)
    simp only [found', reads]
  next noPoint =>
  simp only [PointNotation.munches.eq_none_of_cut halted
    (fun split => (PointNotation.before_cut halted uncut split).1) noPoint]
  exact readPlainNumber_cut halted reads inside

end Lexeme

theorem Mark.prefix_of_cut {mark : Mark} {c : Char} {kept tail : List Char} (halted : Halted tail)
    (begins : mark.text.toList <+: c :: (kept ++ tail)) : mark.text.toList <+: c :: kept := by
  have bare : Bare mark.text.toList.tail := by cases mark <;> simp [Bare, Text.haltMarks, Mark.text]
  cases split : mark.text.toList with
  | nil => exact List.nil_prefix
  | cons first more =>
      rw [split] at begins bare
      obtain ⟨rfl, others⟩ := List.cons_prefix_cons.1 begins
      exact List.cons_prefix_cons.2 ⟨rfl, Text.prefix_of_bare halted bare others⟩

/-- A mark that ends before the cut is read there as well, since none that holds it does. -/
theorem Mark.read?_cut {mark : Mark} {c : Char} {kept dropped tail : List Char}
    (halted : Halted tail) (reads : Mark.read? (c :: (kept ++ dropped)) = some mark)
    (inside : mark.text.toList.length ≤ kept.length + 1) :
    Mark.read? (c :: (kept ++ tail)) = some mark := by
  rw [Mark.read?, List.find?_eq_some_iff_append] at reads ⊢
  obtain ⟨fits, longer, shorter, split, others⟩ := reads
  refine ⟨?_, longer, shorter, split, fun other mem => ?_⟩
  · have begins : mark.text.toList <+: c :: kept :=
      List.prefix_of_prefix_length_le (List.isPrefixOf_iff_prefix.1 fits)
        (List.prefix_append (c :: kept) dropped) inside
    exact List.isPrefixOf_iff_prefix.2 (begins.trans (List.prefix_append (c :: kept) tail))
  · have fails := others other mem
    simp only [Bool.not_eq_true', ← Bool.not_eq_true, List.isPrefixOf_iff_prefix] at fails ⊢
    exact fun begins =>
      fails ((Mark.prefix_of_cut halted begins).trans (List.prefix_append (c :: kept) dropped))

namespace Lexeme

variable {c : Char} {kept dropped tail text : List Char} {lexeme : Lexeme}

/-- A lexeme is read alike in a text that is cut behind it, unless digits are cut or a run of `$`
goes on behind the cut. -/
theorem read_cut (halted : Halted tail) (uncut : Uncut (c :: kept) dropped)
    (reads : read c (kept ++ dropped) = .ok lexeme) (inside : lexeme.more ≤ kept.length)
    (ends : lexeme.kind = .input → Shut tail ∨ lexeme.more < kept.length) :
    read c (kept ++ tail) = .ok lexeme := by
  rw [read] at reads ⊢
  split at reads
  · next word =>
    cases reads
    rw [more_ofWord, String.toList_ofList] at inside
    rw [if_pos word, Text.takeWhile_cut halted (by decide) inside]
  next notWord =>
  rw [if_neg notWord]
  split at reads
  · next dollar =>
    cases reads
    have run : (kept ++ tail).takeWhile (· = '$') = (kept ++ dropped).takeWhile (· = '$') := by
      rcases ends rfl with shut | shorter
      · exact Text.takeWhile_shut shut (by decide) inside
      · exact Text.takeWhile_of_lt shorter
    rw [if_pos dollar, run]
  next notDollar =>
  rw [if_neg notDollar]
  split at reads
  · next digit =>
    rw [if_pos digit]
    exact readNumber_cut halted uncut reads (Nat.lt_succ_of_le inside)
  next notDigit =>
  rw [if_neg notDigit]
  split at reads
  · next point =>
    cases reads
    rw [more_ofDecimal_nil] at inside
    have same : (digitRun (kept ++ tail)).1 = (digitRun (kept ++ dropped)).1 :=
      Text.takeWhile_cut halted (by decide) inside
    rw [same, if_pos point]
  next notPoint =>
  have notPoint' : ¬ (c = '.' ∧ (digitRun (kept ++ tail)).1 ≠ []) := by
    rintro ⟨dot, some⟩
    have none : (digitRun (kept ++ dropped)).1 = [] := by
      by_contra some
      exact notPoint ⟨dot, some⟩
    refine some ((Text.takeWhile_cut halted (by decide) ?_).trans none)
    exact (congrArg List.length none).trans_le (Nat.zero_le _)
  rw [if_neg notPoint']
  split at reads
  · next quote =>
    obtain ⟨content, after, split, unquoted, rfl⟩ := take_readString reads
    have begins : content ++ ['"'] <+: kept := by
      refine List.prefix_of_prefix_length_le ⟨after, ?_⟩ (List.prefix_append kept dropped) ?_
      · rw [split, List.append_assoc, List.singleton_append]
      · rw [List.length_append]
        exact inside
    obtain ⟨behind, rfl⟩ := begins
    rw [if_pos quote, List.append_assoc, List.append_assoc]
    exact readString_quoted unquoted _
  next notQuote =>
  rw [if_neg notQuote]
  split at reads
  · next mark found =>
    cases reads
    simp only [plain] at inside
    rw [Mark.read?_cut halted found (by omega)]
  · cases reads

end Lexeme

end RecordQuery
