import RecordQuery.Proofs.Grammar.Word

/-!
# Words before a blank

A word that stands at the end of a text stays the same word when the text goes on, provided
that it goes on apart from it: with a blank, and with no digit behind the blank, for a date
takes the time of day that follows it (`Text.Apart`).

Digits, spans and points in time are read alike with and without such a tail.  That a lexeme
lies within its text follows from how the notations are put back together from their digits
(`SpanNotation.eq_chars_append`, `PointNotation.eq_chars_append`).  For words there are two
cases: a text with a word in it keeps the word (`Word.read?_append`), and a text without one
lets the first word of the tail through (`Word.read?_append_of_atEnd`).
-/

set_option autoImplicit false

namespace RecordQuery

open Text (digitRun digitsValue markedDigits)

/-- A text that begins with a blank, and with no digit behind it. -/
inductive Text.Apart : List Char → Prop
  | intro {c : Char} {more : List Char} (other : c.isDigit = false) : Apart (' ' :: c :: more)

/-! ## Digits -/

section Runs

variable {p : Char → Bool} {text tail : List Char}

theorem takeWhile_append_apart (apart : Text.Apart tail) (outside : p ' ' = false) :
    (text ++ tail).takeWhile p = text.takeWhile p := by
  obtain ⟨_⟩ := apart
  induction text with
  | nil => rw [List.nil_append, List.takeWhile_cons_of_neg (by simp [outside]), List.takeWhile_nil]
  | cons c text ih => simp only [List.cons_append, List.takeWhile_cons, ih]

theorem dropWhile_append_apart (apart : Text.Apart tail) (outside : p ' ' = false) :
    (text ++ tail).dropWhile p = text.dropWhile p ++ tail := by
  obtain ⟨_⟩ := apart
  induction text with
  | nil => simp [outside]
  | cons c text ih =>
      simp only [List.cons_append, List.dropWhile_cons, ih]
      split <;> rfl

end Runs

section Digits

variable {text tail : List Char}

theorem digitRun_append (apart : Text.Apart tail) :
    digitRun (text ++ tail) = ((digitRun text).1, (digitRun text).2 ++ tail) := by
  rw [digitRun, takeWhile_append_apart apart rfl, dropWhile_append_apart apart rfl]
  rfl

theorem digitRun_split (text : List Char) : (digitRun text).1 ++ (digitRun text).2 = text :=
  List.takeWhile_append_dropWhile

theorem markedDigits_append {mark : Char} (apart : Text.Apart tail) (other : mark ≠ ' ') :
    markedDigits mark (text ++ tail) =
      ((markedDigits mark text).1, (markedDigits mark text).2 ++ tail) := by
  cases text with
  | nil =>
      obtain ⟨_⟩ := apart
      simp only [List.nil_append, markedDigits]
      rw [if_neg fun both => other both.1.symm]
  | cons c text =>
      simp only [List.cons_append, markedDigits, digitRun_append apart]
      split <;> rfl

theorem markedDigits_split (mark : Char) (text : List Char) :
    SpanNotation.markedChars mark (markedDigits mark text).1 ++ (markedDigits mark text).2 =
      text := by
  unfold markedDigits
  cases text with
  | nil => rfl
  | cons c rest =>
      simp only
      split
      · next both =>
        rw [SpanNotation.markedChars, if_neg both.2, List.cons_append, digitRun_split, both.1]
      · rfl

end Digits

/-! ## Notations of time -/

namespace SpanNotation

variable {text tail : List Char}

theorem readDays_append (apart : Text.Apart tail) :
    readDays (text ++ tail) = ((readDays text).1, (readDays text).2 ++ tail) := by
  simp only [readDays, digitRun_append apart]
  rcases left : (digitRun text).2 with _ | ⟨c, rest⟩
  · obtain ⟨_⟩ := apart
    rfl
  · by_cases point : c = '.'
    · subst point
      have colon : ((digitRun rest).2 ++ tail).head? = some ':' ↔
          (digitRun rest).2.head? = some ':' := by
        cases (digitRun rest).2 with
        | nil =>
            obtain ⟨_⟩ := apart
            simp
        | cons d more => simp
      simp only [List.cons_append, digitRun_append apart, colon]
      split <;> rfl
    · simp [point]

theorem readDays_split (text : List Char) :
    (if (readDays text).1 = [] then [] else (readDays text).1 ++ ['.']) ++ (readDays text).2 =
      text := by
  unfold readDays
  have whole := digitRun_split text
  simp only
  split
  · next rest point =>
    split
    · next days =>
      rw [if_neg days.1, List.append_assoc]
      rw [point] at whole
      exact whole
    · rfl
  · rfl

theorem read?_append (allowDays : Bool) (apart : Text.Apart tail) :
    read? allowDays (text ++ tail) =
      (read? allowDays text).map fun found => (found.1, found.2 ++ tail) := by
  have colon : ':' ≠ ' ' := by decide
  have point : '.' ≠ ' ' := by decide
  have days : (if allowDays then readDays (text ++ tail) else ([], text ++ tail)) =
      ((if allowDays then readDays text else ([], text)).1,
        (if allowDays then readDays text else ([], text)).2 ++ tail) := by
    cases allowDays with
    | true => exact readDays_append apart
    | false => rfl
  simp only [read?, days, digitRun_append apart, markedDigits_append apart colon,
    markedDigits_append apart point]
  generalize (if allowDays = true then readDays text else ([], text)) = afterDays
  generalize digitRun afterDays.2 = hours
  generalize markedDigits ':' hours.2 = minutes
  generalize markedDigits ':' minutes.2 = seconds
  by_cases none : seconds.1 = []
  · simp only [if_pos none]
    split <;> rfl
  · simp only [if_neg none]
    split <;> rfl

/-- What was read of a span and what is left are the text. -/
theorem eq_chars_append {allowDays : Bool} {span : SpanNotation} {rest : List Char}
    (reads : read? allowDays text = some (span, rest)) : text = span.chars ++ rest := by
  have days : (if (if allowDays then readDays text else ([], text)).1 = [] then []
        else (if allowDays then readDays text else ([], text)).1 ++ ['.']) ++
      (if allowDays then readDays text else ([], text)).2 = text := by
    cases allowDays with
    | true => exact readDays_split text
    | false => rfl
  simp only [read?] at reads
  generalize (if allowDays = true then readDays text else ([], text)) = afterDays at days reads
  have hours := digitRun_split afterDays.2
  generalize digitRun afterDays.2 = afterHours at hours reads
  have minutes := markedDigits_split ':' afterHours.2
  generalize markedDigits ':' afterHours.2 = afterMinutes at minutes reads
  have seconds := markedDigits_split ':' afterMinutes.2
  generalize markedDigits ':' afterMinutes.2 = afterSeconds at seconds reads
  have fraction : markedChars '.'
        (if afterSeconds.1 = [] then ([], afterSeconds.2) else markedDigits '.' afterSeconds.2).1 ++
      (if afterSeconds.1 = [] then ([], afterSeconds.2) else markedDigits '.' afterSeconds.2).2 =
      afterSeconds.2 := by
    split
    · rfl
    · exact markedDigits_split '.' afterSeconds.2
  split at reads
  · cases reads
  · next written =>
    cases reads
    have both : afterMinutes.1 ≠ [] := fun empty => written (.inr (.inl empty))
    rw [markedChars, if_neg both] at minutes
    simp only [chars, List.append_assoc, fraction, seconds, ← days, ← hours, ← minutes,
      List.cons_append]

end SpanNotation

namespace PointNotation

variable {text tail : List Char}

/-- No time of day begins behind the blank of a tail, so a date at the end of a text stays a
date. -/
theorem read?_append (apart : Text.Apart tail) :
    read? (text ++ tail) = (read? text).map fun found => (found.1, found.2 ++ tail) := by
  have dash : '-' ≠ ' ' := by decide
  simp only [read?, digitRun_append apart, markedDigits_append apart dash]
  generalize digitRun text = year
  generalize markedDigits '-' year.2 = month
  generalize markedDigits '-' month.2 = day
  obtain ⟨day, afterDay⟩ := day
  split
  · rcases afterDay with _ | ⟨c, rest⟩
    · obtain ⟨other⟩ := apart
      simp [SpanNotation.read?, digitRun, other]
    · by_cases blank : c = ' '
      · subst blank
        simp only [List.cons_append, SpanNotation.read?_append false apart]
        cases SpanNotation.read? false rest with
        | none => rfl
        | some clock => rfl
      · simp [blank]
  · rfl

/-- What was read of a point in time and what is left are the text. -/
theorem eq_chars_append {point : PointNotation} {rest : List Char}
    (reads : read? text = some (point, rest)) : text = point.chars ++ rest := by
  simp only [read?] at reads
  have year := digitRun_split text
  generalize digitRun text = afterYear at year reads
  have month := markedDigits_split '-' afterYear.2
  generalize markedDigits '-' afterYear.2 = afterMonth at month reads
  have day := markedDigits_split '-' afterMonth.2
  generalize markedDigits '-' afterMonth.2 = afterDay at day reads
  split at reads
  · next lengths =>
    have monthWritten : afterMonth.1 ≠ [] := by
      intro empty
      simp [empty] at lengths
    have dayWritten : afterDay.1 ≠ [] := by
      intro empty
      simp [empty] at lengths
    rw [SpanNotation.markedChars, if_neg monthWritten] at month
    rw [SpanNotation.markedChars, if_neg dayWritten] at day
    have date : text = afterYear.1 ++ '-' :: afterMonth.1 ++ '-' :: afterDay.1 ++ afterDay.2 := by
      simp only [List.append_assoc, List.cons_append, ← year, ← month, ← day]
    split at reads
    · next clockText blank =>
      split at reads
      · next clock left clockRead =>
        cases reads
        rw [date, blank, SpanNotation.eq_chars_append clockRead]
        simp only [chars, List.append_assoc, List.cons_append]
      · cases reads
        rw [date]
        simp only [chars, List.append_nil]
    · cases reads
      rw [date]
      simp only [chars, List.append_nil]
  · cases reads

end PointNotation

/-! ## Lexemes -/

theorem Mark.read?_append {text tail : List Char} (apart : Text.Apart tail) :
    Mark.read? (text ++ tail) = Mark.read? text := by
  obtain ⟨_⟩ := apart
  have same : ∀ written : List Char, ' ' ∉ written → ∀ text more : List Char,
      written.isPrefixOf (text ++ ' ' :: more) = written.isPrefixOf text := by
    intro written
    induction written with
    | nil => simp
    | cons c written ih =>
        intro unspaced text more
        simp only [List.mem_cons, not_or] at unspaced
        cases text with
        | nil => simp [List.isPrefixOf, Ne.symm unspaced.1]
        | cons d text => simp [List.isPrefixOf, ih unspaced.2]
  have unspaced : ∀ mark : Mark, ' ' ∉ mark.text.toList := by
    intro mark
    cases mark <;> decide
  simp only [Mark.read?, same _ (unspaced _)]

theorem Mark.prefix_of_read? {text : List Char} {mark : Mark}
    (reads : Mark.read? text = some mark) : mark.text.toList <+: text := by
  rw [Mark.read?] at reads
  have fits := List.find?_some reads
  exact List.isPrefixOf_iff_prefix.1 fits

theorem Mark.length_text_pos (mark : Mark) : 0 < mark.text.toList.length := by
  cases mark <;> decide

namespace Lexeme

variable {text tail : List Char} {lexeme : Lexeme}

theorem readPlainNumber_append (apart : Text.Apart tail) :
    readPlainNumber (text ++ tail) = readPlainNumber text := by
  have point : '.' ≠ ' ' := by decide
  simp only [readPlainNumber, digitRun_append apart, markedDigits_append apart point]

theorem readNumber_append (apart : Text.Apart tail) :
    readNumber (text ++ tail) = readNumber text := by
  have blame : ∀ {τ : Type} (length : Nat) (literal : τ → Literal)
      (value : Except NotationFault τ),
      ofTime (text ++ tail) length literal value = ofTime text length literal value := by
    intro τ length literal value
    cases value with
    | ok value => rfl
    | error fault => rw [ofTime, digitRun_append apart, ofTime]
  rw [readNumber, readNumber, SpanNotation.read?_append true apart]
  cases SpanNotation.read? true text with
  | some span => exact blame _ _ _
  | none =>
      simp only [Option.map_none, PointNotation.read?_append apart]
      cases PointNotation.read? text with
      | some point => exact blame _ _ _
      | none => exact readPlainNumber_append apart

theorem readString_append (reads : readString text = .ok lexeme) :
    readString (text ++ tail) = .ok lexeme := by
  unfold readString at reads
  simp only at reads
  split at reads
  · next closed =>
    have content : (text ++ tail).takeWhile (· ≠ '"') = text.takeWhile (· ≠ '"') := by
      rw [List.takeWhile_append, if_neg (Nat.ne_of_lt closed)]
    have longer : (text.takeWhile (· ≠ '"')).length < (text ++ tail).length := by
      rw [List.length_append]
      exact Nat.lt_add_right _ closed
    simp only [readString, content, if_pos longer]
    exact reads
  · cases reads

/-- A lexeme is the same where the text goes on apart from it. -/
theorem read_append {c : Char} (apart : Text.Apart tail) (reads : read c text = .ok lexeme) :
    read c (text ++ tail) = .ok lexeme := by
  rw [read] at reads ⊢
  rw [takeWhile_append_apart apart (by decide), takeWhile_append_apart apart (by decide),
    ← List.cons_append, readNumber_append apart, digitRun_append apart, Mark.read?_append apart]
  split at reads
  · next word =>
    rw [if_pos word]
    exact reads
  next notWord =>
  rw [if_neg notWord]
  split at reads
  · next run =>
    rw [if_pos run]
    exact reads
  next notRun =>
  rw [if_neg notRun]
  split at reads
  · next digit =>
    rw [if_pos digit]
    exact reads
  next notDigit =>
  rw [if_neg notDigit]
  split at reads
  · next point =>
    rw [if_pos point]
    exact reads
  next notPoint =>
  rw [if_neg notPoint]
  split at reads
  · next quote =>
    rw [if_pos quote]
    exact readString_append reads
  next notQuote =>
  rw [if_neg notQuote]
  exact reads

/-- A lexeme is never the end, and it has no more characters than its text. -/
def Within (extent : Nat) (lexeme : Lexeme) : Prop :=
  lexeme.kind ≠ .endOfInput ∧ lexeme.more < extent

theorem Within.ofLiteral {extent length : Nat} {literal : Literal} (inside : length ≤ extent)
    (positive : 0 < extent) : (Lexeme.ofLiteral length literal).Within extent := by
  refine ⟨nofun, ?_⟩
  simp only [Lexeme.ofLiteral]
  omega

theorem Within.ofTime {τ : Type} {length : Nat} {literal : τ → Literal}
    {value : Except NotationFault τ} (inside : length ≤ text.length) (positive : 0 < text.length)
    (reads : Lexeme.ofTime text length literal value = .ok lexeme) :
    lexeme.Within text.length := by
  cases value with
  | error fault => cases reads
  | ok value =>
      cases reads
      exact .ofLiteral inside positive

theorem within_ofWord (c : Char) (word : List Char) :
    (ofWord (String.ofList (c :: word))).Within (word.length + 1) := by
  unfold ofWord
  simp only [String.toList_ofList, List.length_cons]
  split
  · exact .ofLiteral (Nat.le_refl _) (Nat.succ_pos _)
  split
  · exact .ofLiteral (Nat.le_refl _) (Nat.succ_pos _)
  split
  · exact ⟨nofun, Nat.lt_succ_self _⟩
  split
  · exact ⟨nofun, Nat.lt_succ_self _⟩
  · exact ⟨nofun, Nat.lt_succ_self _⟩

theorem within_readPlainNumber (positive : 0 < text.length)
    (reads : readPlainNumber text = .ok lexeme) : lexeme.Within text.length := by
  have digits := congrArg List.length (digitRun_split text)
  have fraction := congrArg List.length (markedDigits_split '.' (digitRun text).2)
  rw [List.length_append] at digits fraction
  unfold readPlainNumber at reads
  simp only at reads
  split at reads
  · next written =>
    cases reads
    rw [SpanNotation.markedChars, if_neg written, List.length_cons] at fraction
    refine .ofLiteral ?_ positive
    omega
  split at reads
  · cases reads
    refine .ofLiteral ?_ positive
    omega
  · cases reads

theorem within_readNumber (positive : 0 < text.length) (reads : readNumber text = .ok lexeme) :
    lexeme.Within text.length := by
  have front : ∀ {chars rest : List Char}, text = chars ++ rest → chars.length ≤ text.length := by
    intro chars rest split
    rw [split, List.length_append]
    exact Nat.le_add_right _ _
  unfold readNumber at reads
  split at reads
  · next spanRead => exact .ofTime (front (SpanNotation.eq_chars_append spanRead)) positive reads
  split at reads
  · next pointRead => exact .ofTime (front (PointNotation.eq_chars_append pointRead)) positive reads
  · exact within_readPlainNumber positive reads

theorem within_read {c : Char} (reads : read c text = .ok lexeme) :
    lexeme.Within (c :: text).length := by
  have positive : 0 < (c :: text).length := Nat.succ_pos _
  have run : ∀ p : Char → Bool, (text.takeWhile p).length ≤ text.length :=
    fun p => (List.takeWhile_prefix p).length_le
  unfold read at reads
  split at reads
  · cases reads
    obtain ⟨real, bounded⟩ := within_ofWord c (text.takeWhile continuesWord)
    exact ⟨real, Nat.lt_of_lt_of_le bounded (Nat.succ_le_succ (run _))⟩
  split at reads
  · cases reads
    exact ⟨nofun, Nat.lt_succ_of_le (run _)⟩
  split at reads
  · exact within_readNumber positive reads
  split at reads
  · cases reads
    refine .ofLiteral ?_ positive
    have digits := run Char.isDigit
    simp only [List.length_nil, digitRun, List.length_cons]
    omega
  split at reads
  · unfold readString at reads
    simp only at reads
    split at reads
    · next closed =>
      cases reads
      exact .ofLiteral (Nat.succ_le_succ closed) positive
    · cases reads
  split at reads
  · next mark found =>
    cases reads
    have bounded := (Mark.prefix_of_read? found).length_le
    refine ⟨nofun, ?_⟩
    simp only [plain]
    omega
  · cases reads

end Lexeme

/-! ## Words -/

namespace Word

variable {text tail after : List Char} {word : Word}

/-- A word stays where the text goes on apart from it. -/
theorem read?_append (apart : Text.Apart tail) (reads : read? text = some (word, after))
    (real : word.kind ≠ .endOfInput) : read? (text ++ tail) = some (word, after ++ tail) := by
  rcases left : Text.trimStart text with _ | ⟨c, more⟩
  · simp only [read?, left] at reads
    cases reads
    exact absurd rfl real
  · have trimmed : Text.trimStart (text ++ tail) = c :: (more ++ tail) := by
      rw [Text.trimStart] at left ⊢
      rw [List.dropWhile_append, left]
      rfl
    simp only [read?, left] at reads
    split at reads
    · next lexeme lexed =>
      cases reads
      obtain ⟨_, bounded⟩ := Lexeme.within_read lexed
      simp only [read?, trimmed, Lexeme.read_append apart lexed]
      rw [← List.cons_append, List.take_append_of_le_length bounded,
        List.drop_append_of_le_length bounded]
    · cases reads

theorem atEnd_iff : AtEnd text ↔ Text.trimStart text = [] := by
  constructor
  · rintro ⟨word, after, reads, last⟩
    rcases left : Text.trimStart text with _ | ⟨c, more⟩
    · rfl
    · simp only [read?, left] at reads
      split at reads
      · next lexeme lexed =>
        cases reads
        exact absurd last (Lexeme.within_read lexed).1
      · cases reads
  · intro left
    exact ⟨ending, [], by simp only [read?, left], rfl⟩

/-- Where nothing is left, the first word is that of the tail. -/
theorem read?_append_of_atEnd (ends : AtEnd text) : read? (text ++ tail) = read? tail := by
  have left := atEnd_iff.1 ends
  rw [Text.trimStart] at left
  simp only [read?, Text.trimStart, List.dropWhile_append, left, List.isEmpty_nil, if_true]

end Word

end RecordQuery
