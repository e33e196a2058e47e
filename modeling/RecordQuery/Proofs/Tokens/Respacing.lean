import RecordQuery.Proofs.Time.Writing
import RecordQuery.Proofs.Tokens.Tiling

/-!
# Tokens written one to a line

A query and the query in which each of its tokens stands on a line of its own have the same tokens,
apart from the places where they start (`tokenize_respaced`).

For one lexeme this says that nothing behind it was needed to read it: it is read alike where the
text breaks off behind it (`Lexeme.read_take`).  The readers look far ahead, but each of them finds
the shape that it looks for within the lexeme or not at all.
-/

set_option autoImplicit false

namespace RecordQuery

open Text (digitRun markedDigits Broken AllDigits)

/-! ## Lexemes where the text breaks off -/

theorem takeWhile_append_broken {p : Char → Bool} {run tail : List Char} (broken : Broken tail)
    (all : ∀ c ∈ run, p c = true) (outside : p '\n' = false) :
    (run ++ tail).takeWhile p = run := by
  rw [List.takeWhile_append_of_pos all]
  cases broken with
  | nil => rw [List.takeWhile_nil, List.append_nil]
  | newline => rw [List.takeWhile_cons_of_neg (by simp [outside]), List.append_nil]

theorem take_length_takeWhile (p : Char → Bool) (text : List Char) :
    text.take (text.takeWhile p).length = text.takeWhile p :=
  (List.prefix_iff_eq_take.1 (List.takeWhile_prefix p)).symm

theorem Mark.read?_text_append {tail : List Char} (mark : Mark) (broken : Broken tail) :
    Mark.read? (mark.text.toList ++ tail) = some mark := by
  cases broken with
  | nil => cases mark <;> rfl
  | newline => cases mark <;> rfl

namespace Lexeme

variable {c : Char} {text tail : List Char} {lexeme : Lexeme}

theorem more_ofWord (word : String) : (ofWord word).more = word.toList.length - 1 := by
  rcases ofWord_cases word with ⟨truth, same⟩ | ⟨kind, _, same⟩
  · rw [same]
    rfl
  · rw [same]
    rfl

theorem more_ofDecimal_nil (digits : List Char) : (ofDecimal [] digits).more = digits.length := by
  simp only [ofDecimal, ofLiteral, List.length_nil]
  rw [Nat.zero_add, Nat.add_sub_cancel_left]

/-- The text is needed only to say which digits are to blame. -/
theorem ofTime_eq_ok {τ : Type} {length : Nat} {literal : τ → Literal}
    {result : Except NotationFault τ} (reads : ofTime text length literal result = .ok lexeme) :
    lexeme.more = length - 1 ∧ ∀ text', ofTime text' length literal result = .ok lexeme := by
  cases result with
  | error fault => cases reads
  | ok time =>
      cases reads
      exact ⟨rfl, fun _ => rfl⟩

theorem readNumber_of_digits {digits after : List Char} (all : AllDigits digits)
    (ends : Text.NoDigit after) (noMark : ∀ c more, after = c :: more → c ≠ ':' ∧ c ≠ '-')
    (noDays : ∀ more, after = '.' :: more → (digitRun more).2.head? ≠ some ':') :
    readNumber (digits ++ after) = readPlainNumber (digits ++ after) := by
  have span : SpanNotation.read? true (digits ++ after) = none :=
    SpanNotation.read?_digits all ends (fun c more same => (noMark c more same).1) noDays
  have point := PointNotation.read?_digits all ends fun c more same => (noMark c more same).2
  simp only [readNumber, span, point]

theorem readPlainNumber_take (broken : Broken tail) (some : (digitRun text).1 ≠ [])
    (reads : readPlainNumber text = .ok lexeme) :
    readNumber (text.take (lexeme.more + 1) ++ tail) = .ok lexeme := by
  have all := Text.allDigits_digitRun text
  have whole := digitRun_split text
  have marked := markedDigits_split '.' (digitRun text).2
  have more := Text.allDigits_markedDigits '.' (digitRun text).2
  have positive := List.length_pos_iff.2 some
  simp only [readPlainNumber] at reads
  generalize digitRun text = split at *
  obtain ⟨digits, rest⟩ := split
  generalize markedDigits '.' rest = split at *
  obtain ⟨fraction, after⟩ := split
  simp only at all whole marked more positive reads some
  split at reads
  · next written =>
    cases reads
    rw [SpanNotation.markedChars, if_neg written] at marked
    have front : text.take ((ofDecimal digits fraction).more + 1) = digits ++ '.' :: fraction := by
      rw [← whole, ← marked, ofDecimal, ofLiteral, ← List.append_assoc]
      refine (List.take_left' ?_)
      simp only [List.length_append, List.length_cons]
      omega
    have fractions := Text.digitRun_append_noDigit more broken.noDigit
    have point : Text.NoDigit ('.' :: (fraction ++ tail)) := Text.noDigit_cons rfl
    rw [front, List.append_assoc, List.cons_append, readNumber_of_digits all point]
    · simp only [readPlainNumber, Text.digitRun_append_noDigit all point, markedDigits, fractions]
      simp [written]
    · rintro _ _ ⟨⟩
      decide
    · rintro _ ⟨⟩
      rw [fractions]
      cases broken <;> simp
  next unwritten =>
  split at reads
  · next small =>
    cases reads
    have front : text.take ((ofLiteral digits.length
        (.integer (Int32.ofNat (Text.digitsValue digits)))).more + 1) = digits := by
      rw [← whole, ofLiteral, Nat.sub_add_cancel positive, List.take_left]
    have noPoint : markedDigits '.' tail = ([], tail) :=
      Text.markedDigits_of_ne (broken.ne (by decide))
    rw [front, readNumber_of_digits all broken.noDigit]
    · simp only [readPlainNumber, Text.digitRun_append_noDigit all broken.noDigit, noPoint]
      simp [small]
    · exact fun c more same =>
        ⟨broken.ne (by decide) c more same, broken.ne (by decide) c more same⟩
    · exact fun more same => absurd rfl (broken.ne (by decide) '.' more same)
  · cases reads

/-- A number is read alike where the text breaks off behind it. -/
theorem readNumber_take (broken : Broken tail) (some : (digitRun text).1 ≠ [])
    (reads : readNumber text = .ok lexeme) :
    readNumber (text.take (lexeme.more + 1) ++ tail) = .ok lexeme := by
  rw [readNumber] at reads
  split at reads
  · next span rest found =>
    obtain ⟨more, reads⟩ := ofTime_eq_ok reads
    obtain ⟨written, noDays⟩ := SpanNotation.wellWritten_of_read? found
    have front : text.take (lexeme.more + 1) = span.chars := by
      rw [SpanNotation.eq_chars_append found, more, Nat.sub_add_cancel span.chars_length_pos,
        List.take_left]
    rw [front, readNumber, SpanNotation.read?_chars_append written noDays broken]
    exact reads _
  split at reads
  · next point rest found =>
    obtain ⟨more, reads⟩ := ofTime_eq_ok reads
    have written := PointNotation.wellWritten_of_read? found
    have front : text.take (lexeme.more + 1) = point.chars := by
      rw [PointNotation.eq_chars_append found, more, Nat.sub_add_cancel point.chars_length_pos,
        List.take_left]
    rw [front, readNumber, PointNotation.span_read?_chars written,
      PointNotation.read?_chars_append written broken]
    exact reads _
  · exact readPlainNumber_take broken some reads

theorem readString_quoted {content : List Char} (unquoted : '"' ∉ content) (after : List Char) :
    readString (content ++ '"' :: after) =
      .ok (ofLiteral (content.length + 2) (.string (String.ofList content))) := by
  have run : (content ++ '"' :: after).takeWhile (· ≠ '"') = content := by
    rw [List.takeWhile_append_of_pos, List.takeWhile_cons_of_neg (by simp), List.append_nil]
    rintro c mem
    simp only [ne_eq, decide_not, Bool.not_eq_eq_eq_not, Bool.not_true, decide_eq_false_iff_not]
    rintro rfl
    exact unquoted mem
  simp only [readString, run]
  exact if_pos (by simp)

/-- A lexeme is read alike where the text breaks off behind it. -/
theorem read_take (broken : Broken tail) (reads : read c text = .ok lexeme) :
    read c (text.take lexeme.more ++ tail) = .ok lexeme := by
  have run : ∀ p : Char → Bool, p '\n' = false →
      (text.take (text.takeWhile p).length ++ tail).takeWhile p = text.takeWhile p := by
    intro p outside
    rw [take_length_takeWhile]
    exact takeWhile_append_broken broken (fun _ => List.mem_takeWhile_imp) outside
  unfold read at reads
  rw [read]
  split at reads
  · next word =>
    cases reads
    rw [if_pos word, more_ofWord, String.toList_ofList, List.length_cons, Nat.add_sub_cancel,
      run _ (by decide)]
  next notWord =>
  rw [if_neg notWord]
  split at reads
  · next dollar =>
    cases reads
    rw [if_pos dollar]
    exact congrArg (fun dollars => Except.ok (plain .input (List.length dollars)))
      (run (· = '$') (by decide))
  next notDollar =>
  rw [if_neg notDollar]
  split at reads
  · next digit =>
    have number := readNumber_take broken (Text.digitRun_cons_ne_nil digit text) reads
    rw [if_pos digit]
    rwa [List.take_succ_cons, List.cons_append] at number
  next notDigit =>
  rw [if_neg notDigit]
  split at reads
  · next point =>
    cases reads
    have front : text.take (ofDecimal [] (digitRun text).1).more = (digitRun text).1 := by
      rw [more_ofDecimal_nil]
      exact take_length_takeWhile _ _
    rw [front, Text.digitRun_append_noDigit (Text.allDigits_digitRun text) broken.noDigit,
      if_pos point]
  next notPoint =>
  split at reads
  · next quote =>
    obtain ⟨content, after, rfl, unquoted, rfl⟩ := take_readString reads
    have front : (content ++ '"' :: after).take
        (ofLiteral (content.length + 2) (.string (String.ofList content))).more =
        content ++ ['"'] := List.take_length_add_append 1
    rw [front, List.append_assoc, List.singleton_append, if_neg (by rw [quote]; simp),
      if_pos quote]
    exact readString_quoted unquoted tail
  next notQuote =>
  split at reads
  · next mark found =>
    cases reads
    have front := List.prefix_iff_eq_take.1 (Mark.prefix_of_read? found)
    rw [← Nat.sub_add_cancel mark.length_text_pos, List.take_succ_cons] at front
    have noDecimal : ¬ (c = '.' ∧
        (digitRun (text.take (plain (.mark mark) (mark.text.toList.length - 1)).more ++ tail)).1 ≠
          []) := by
      rintro ⟨rfl, some⟩
      have isDot : mark = .dot := by
        cases mark <;> first | rfl | exact absurd (List.cons.inj front).1 (by decide)
      subst isDot
      exact some (congrArg Prod.fst
        (Text.digitRun_append_noDigit (List.forall_mem_nil _) broken.noDigit))
    rw [if_neg noDecimal, if_neg notQuote, ← List.cons_append]
    have again := Mark.read?_text_append mark broken
    rw [front] at again
    simp only [plain, again]
  · cases reads

end Lexeme

/-! ## Words on lines of their own -/

namespace Word

variable {text text' after tail : List Char} {word : Word}

/-- The blanks in front of a text do not matter. -/
theorem read?_congr (same : Text.trimStart text = Text.trimStart text') :
    read? text = read? text' := by
  unfold read?
  rw [same]

/-- A word is read alike where the text breaks off behind it. -/
theorem read?_lexeme_append (broken : Broken tail) (reads : read? text = some (word, after))
    (real : word.kind ≠ .endOfInput) :
    read? (word.lexeme.toList ++ tail) = some (word, tail) ∧
      Text.trimStart (word.lexeme.toList ++ tail) = word.lexeme.toList ++ tail := by
  rcases left : Text.trimStart text with _ | ⟨c, more⟩
  · simp only [read?, left] at reads
    cases reads
    exact absurd rfl real
  · have written := Text.not_blank_of_trimStart left
    have trimmed : ∀ more, Text.trimStart (c :: more) = c :: more :=
      fun _ => List.dropWhile_cons_of_neg (by simp [written])
    simp only [read?, left] at reads
    split at reads
    · next lexeme lexed =>
      cases reads
      have bounded := Nat.le_of_lt_succ (Lexeme.within_read lexed).2
      have length : (more.take lexeme.more).length = lexeme.more := List.length_take_of_le bounded
      simp only [String.toList_ofList, List.take_succ_cons, List.cons_append]
      refine ⟨?_, trimmed _⟩
      simp only [read?, trimmed, Lexeme.read_take broken lexed, List.take_succ_cons,
        List.drop_succ_cons, List.take_left' length, List.drop_left' length]
    · cases reads

end Word

/-! ## Queries with one token to a line -/

/-- The lexemes of some tokens stand in a text one after another, each with nothing but blanks
before it, and with a line feed or the end behind it. -/
inductive OnLines : List Token → List Char → Prop
  | nil {text : List Char} (blank : Text.trimStart text = []) : OnLines [] text
  | cons {token : Token} {tokens : List Token} {text tail : List Char}
      (written : Text.trimStart text = token.lexeme.toList ++ tail) (broken : Broken tail)
      (more : OnLines tokens tail) : OnLines (token :: tokens) text

theorem OnLines.newline {tokens : List Token} {text : List Char} (lines : OnLines tokens text) :
    OnLines tokens ('\n' :: text) := by
  have trimmed : Text.trimStart ('\n' :: text) = Text.trimStart text :=
    List.dropWhile_cons_of_pos rfl
  cases lines with
  | nil blank => exact .nil (trimmed.trans blank)
  | cons written broken more => exact .cons (trimmed.trans written) broken more

namespace Cursor

variable {cursor last : Cursor} {tokens : List Token}

/-- The tokens of a run are on lines of their own in the text that is put together from their
lexemes; an empty line may be left at the end. -/
theorem Pops.onLines (run : cursor.Pops tokens last) (more : List String)
    (empty : more = [] ∨ more = [""]) :
    OnLines tokens ("\n".intercalate (tokens.map (·.lexeme) ++ more)).toList := by
  induction run with
  | none =>
      refine .nil ?_
      rcases empty with rfl | rfl <;> rfl
  | @more cursor last popped tokens pops real run ih =>
      have trimmed : ∀ tail, Broken tail →
          Text.trimStart (popped.token.lexeme.toList ++ tail) =
            popped.token.lexeme.toList ++ tail :=
        fun tail broken => (Word.read?_lexeme_append broken (read?_of_pop pops) real).2
      rw [List.map_cons, List.cons_append]
      cases others : tokens.map (·.lexeme) ++ more with
      | nil =>
          obtain ⟨none, rfl⟩ := List.append_eq_nil_iff.1 others
          obtain rfl := List.map_eq_nil_iff.1 none
          rw [String.intercalate_singleton]
          have alone := trimmed [] .nil
          rw [List.append_nil] at alone
          exact .cons (alone.trans (List.append_nil _).symm) .nil (.nil rfl)
      | cons next others' =>
          rw [String.intercalate_cons_cons, ← others, String.toList_append, String.toList_append,
            List.append_assoc]
          exact .cons (trimmed _ .newline) .newline ih.newline

/-- A run of pops goes the same way over a text with its tokens on lines of their own. -/
theorem Pops.tokens_onLines (run : cursor.Pops tokens last) :
    ∀ cursor' : Cursor, OnLines tokens cursor'.rest →
      ∃ tokens', cursor'.tokens = .ok tokens' ∧
        tokens'.map Token.word = tokens.map Token.word ++ [Word.ending] := by
  induction run with
  | none =>
      rintro cursor' ⟨blank⟩
      have reads : Word.read? cursor'.rest = some (Word.ending, []) := by
        simp only [Word.read?, blank]
      obtain ⟨popped, pops, word, _⟩ := pop_of_read? reads
      have ended : popped.token.kind = .endOfInput := congrArg Word.kind word
      refine ⟨[popped.token], ?_, by rw [List.map_singleton, word]; rfl⟩
      rw [Cursor.tokens]
      exact bind_ok pops (dif_pos ended)
  | @more cursor last popped tokens pops real run ih =>
      rintro cursor' (_ | ⟨written, broken, more⟩)
      obtain ⟨again, trimmed⟩ := Word.read?_lexeme_append broken (read?_of_pop pops) real
      obtain ⟨popped', pops', word, rest⟩ :=
        pop_of_read? ((Word.read?_congr (written.trans trimmed.symm)).trans again)
      have real' : popped'.token.kind ≠ .endOfInput := fun ended =>
        real ((congrArg Word.kind word).symm.trans ended)
      obtain ⟨tokens', cuts, words⟩ := ih popped'.next (rest ▸ more)
      refine ⟨popped'.token :: tokens', ?_, by rw [List.map_cons, word, words]; rfl⟩
      rw [Cursor.tokens]
      exact bind_ok pops' ((dif_neg real').trans (bind_ok cuts rfl))

end Cursor

/-- The tokens of a query, written one after another with a line feed between two of them, are the
same tokens again: only the places where they start are others.  It makes no difference whether the
end is written as a token too, which leaves an empty line. -/
theorem tokenize_lines {source : String} {tokens written : List Token}
    (cuts : tokenize source = .ok tokens) (all : written = tokens ∨ written = tokens.dropLast) :
    ∃ tokens', tokenize ("\n".intercalate (written.map (·.lexeme))) = .ok tokens' ∧
      tokens'.map Token.word = tokens.map Token.word := by
  obtain ⟨before, last, popped, run, pops, ended, rfl⟩ :=
    Cursor.tokens_eq_ok (mapError_eq_ok_iff.1 cuts)
  have word := Cursor.word_of_pop_end pops ended
  obtain ⟨more, empty, rest⟩ : ∃ more : List String, (more = [] ∨ more = [""]) ∧
      written.map (·.lexeme) = before.map (·.lexeme) ++ more := by
    rcases all with rfl | rfl
    · refine ⟨[""], .inr rfl, ?_⟩
      have unwritten : popped.token.lexeme = "" := congrArg Word.lexeme word
      rw [List.map_append, List.map_singleton, unwritten]
    · exact ⟨[], .inl rfl, by rw [List.dropLast_concat, List.append_nil]⟩
  obtain ⟨tokens', cuts', words⟩ := run.tokens_onLines
    (Cursor.start ("\n".intercalate (written.map (·.lexeme)))) (rest ▸ run.onLines more empty)
  refine ⟨tokens', mapError_eq_ok_iff.2 cuts', ?_⟩
  rw [words, List.map_append, List.map_singleton, word]

/-- The blank behind a date may begin a time of day; here it does not, and the number behind it
moves to a line of its own. -/
theorem tokenize_lines_date :
    ∃ tokens : List Token, tokenize "2023-04-01 12<$$.a" = .ok tokens ∧
      "\n".intercalate (tokens.map (·.lexeme)) = "2023-04-01\n12\n<\n$$\n.\na\n" ∧
      ∃ tokens', tokenize ("\n".intercalate (tokens.map (·.lexeme))) = .ok tokens' ∧
        tokens'.map Token.word = tokens.map Token.word := by
  have cuts : tokenize "2023-04-01 12<$$.a" = .ok [
      ⟨0, .literal, "2023-04-01", some (.dateTime ⟨⟨19448, by decide⟩, .midnight⟩)⟩,
      ⟨11, .literal, "12", some (.integer 12)⟩, ⟨13, .mark .less, "<", none⟩,
      ⟨14, .input, "$$", none⟩, ⟨16, .mark .dot, ".", none⟩, ⟨17, .identifier, "a", none⟩,
      ⟨18, .endOfInput, "", none⟩] := by cbv
  exact ⟨_, cuts, rfl, tokenize_lines cuts (.inl rfl)⟩

end RecordQuery
