import RecordQuery.Proofs.Tokens.Cutting

/-!
# Parentheses put into a text

Two parentheses are put around some tokens of a text (`Text.parenthesize`).  The words of the new
text are those of the old one, with the parentheses as words of their own around those that stand
between them (`Cursor.Pops.words_parenthesize`).

A run of words (`Word.Run`) ends where its last word ends, and no digits are cut there
(`Word.Run.uncut`).  So it is the same run before a parenthesis (`Word.Run.cut`), and what stands
behind the parenthesis is read from the same text as before.  It is the same before a `$` too,
unless it ends with a run of `$`.
-/

set_option autoImplicit false

namespace RecordQuery

open Text (digitRun markedDigits NoDigit Shut Halted Uncut)

/-! ## Where lexemes end -/

namespace Text

variable {front kept dropped : List Char}

theorem Uncut.of_forall (others : ∀ c ∈ kept, c.isDigit = false) : Uncut kept dropped :=
  .inr fun c last => others c (List.mem_of_getLast? last)

/-- What is in front of a text does not matter, unless all of the text is cut off. -/
theorem Uncut.of_ne_nil (uncut : Uncut kept dropped) (some : kept ≠ []) (front : List Char) :
    Uncut (front ++ kept) dropped := by
  refine uncut.imp_right fun others c last => others c ?_
  rwa [List.getLast?_append_of_ne_nil _ some] at last

theorem Uncut.append (uncut : Uncut kept dropped) (first : Uncut front (kept ++ dropped)) :
    Uncut (front ++ kept) dropped := by
  cases kept with
  | nil => rwa [List.append_nil]
  | cons c kept => exact uncut.of_ne_nil (List.cons_ne_nil c kept) front

theorem Uncut.of_append (uncut : Uncut (front ++ kept) dropped) : Uncut kept dropped := by
  refine uncut.imp_right fun others d last => others d ?_
  rw [List.getLast?_append, last]
  rfl

end Text

theorem SpanNotation.noDigit_of_read? {allowDays : Bool} {span : SpanNotation}
    {text rest : List Char} (reads : SpanNotation.read? allowDays text = some (span, rest)) :
    NoDigit rest := by
  simp only [SpanNotation.read?] at reads
  generalize (if allowDays = true then readDays text else ([], text)) = days at reads
  split at reads
  · cases reads
  · cases reads
    have ends := ((Text.noDigit_digitRun days.2).markedDigits ':').markedDigits ':'
    split
    · exact ends
    · exact ends.markedDigits '.'

theorem PointNotation.noDigit_of_read? {point : PointNotation} {text rest : List Char}
    (reads : PointNotation.read? text = some (point, rest)) : NoDigit rest := by
  simp only [PointNotation.read?] at reads
  split at reads
  · have ends := ((Text.noDigit_digitRun text).markedDigits '-').markedDigits '-'
    split at reads
    · split at reads
      · next found =>
        cases reads
        exact SpanNotation.noDigit_of_read? found
      · cases reads
        exact ends
    · cases reads
      exact ends
  · cases reads

namespace Lexeme

variable {c : Char} {text : List Char} {lexeme : Lexeme}

theorem continuesWord_of_isDigit (digit : c.isDigit = true) : continuesWord c = true := by
  have bounds : 48 ≤ c.val.toNat ∧ c.val.toNat ≤ 57 := by
    simpa [Char.isDigit, UInt32.le_iff_toNat_le] using digit
  have small : c.val < 0x80 := UInt32.lt_iff_toNat_lt.2 (Nat.lt_of_le_of_lt bounds.2 (by decide))
  simp only [continuesWord, Text.isAlphanumeric, Text.isNumeric, if_pos small, digit, Bool.or_true,
    Bool.true_or]

theorem noDigit_readPlainNumber (some : (digitRun text).1 ≠ [])
    (reads : readPlainNumber text = .ok lexeme) : NoDigit (text.drop (lexeme.more + 1)) := by
  have positive := List.length_pos_iff.2 some
  have whole := digitRun_split text
  have marked := markedDigits_split '.' (digitRun text).2
  have ends := Text.noDigit_digitRun text
  have after := ends.markedDigits '.'
  simp only [readPlainNumber] at reads
  generalize digitRun text = split at *
  obtain ⟨digits, rest⟩ := split
  generalize markedDigits '.' rest = split at *
  obtain ⟨fraction, left⟩ := split
  simp only at whole marked reads ends after positive
  split at reads
  · next written =>
    cases reads
    rw [SpanNotation.markedChars, if_neg written] at marked
    rw [← whole, ← marked, ← List.append_assoc, List.drop_left' ?_]
    · exact after
    · simp only [ofDecimal, ofLiteral, List.length_append, List.length_cons]
      omega
  split at reads
  · cases reads
    rwa [ofLiteral, Nat.sub_add_cancel positive, ← whole, List.drop_left]
  · cases reads

/-- No digit stands behind a number. -/
theorem noDigit_readNumber (some : (digitRun text).1 ≠ [])
    (reads : readNumber text = .ok lexeme) : NoDigit (text.drop (lexeme.more + 1)) := by
  rw [readNumber] at reads
  split at reads
  · next span rest found =>
    obtain ⟨more, _⟩ := ofTime_eq_ok reads
    rw [more, Nat.sub_add_cancel span.chars_length_pos, SpanNotation.eq_chars_append found,
      List.drop_left]
    exact SpanNotation.noDigit_of_read? found
  split at reads
  · next point rest found =>
    obtain ⟨more, _⟩ := ofTime_eq_ok reads
    rw [more, Nat.sub_add_cancel point.chars_length_pos, PointNotation.eq_chars_append found,
      List.drop_left]
    exact PointNotation.noDigit_of_read? found
  · exact noDigit_readPlainNumber some reads

/-- No token ends within digits. -/
theorem uncut_read (reads : read c text = .ok lexeme) :
    Uncut ((c :: text).take (lexeme.more + 1)) ((c :: text).drop (lexeme.more + 1)) := by
  have behind : ∀ (p : Char → Bool), (∀ c, c.isDigit = true → p c = true) →
      NoDigit (text.drop (text.takeWhile p).length) := by
    intro p inside d more split
    have other := List.head?_dropWhile_not p text
    rw [← drop_length_takeWhile, split] at other
    exact Bool.eq_false_iff.2 fun digit => Bool.eq_false_iff.1 other (inside d digit)
  have quotes : ∀ value, lexeme.literal? = some (.string value) →
      Quotes ((c :: text).take (lexeme.more + 1)) value := fun _ => quotes_of_read reads
  rw [read] at reads
  split at reads
  · next word =>
    cases reads
    rw [more_ofWord, String.toList_ofList, List.length_cons, Nat.add_sub_cancel]
    exact .inl (behind _ fun _ => continuesWord_of_isDigit)
  split at reads
  · next dollar =>
    cases reads
    refine .of_forall fun d mem => ?_
    rw [plain, List.take_succ_cons, take_length_takeWhile, List.mem_cons] at mem
    rcases mem with rfl | mem
    · rw [dollar]
      rfl
    · have same := List.mem_takeWhile_imp mem
      rw [of_decide_eq_true same]
      rfl
  split at reads
  · next digit =>
    exact .inl (noDigit_readNumber (Text.digitRun_cons_ne_nil digit text) reads)
  split at reads
  · cases reads
    rw [more_ofDecimal_nil]
    exact .inl (behind _ fun _ => id)
  split at reads
  · next quote =>
    obtain ⟨content, after, rfl, _, rfl⟩ := take_readString reads
    rw [(quotes _ rfl).1, ← List.cons_append]
    refine .inr fun d last => ?_
    rw [List.getLast?_concat] at last
    cases last
    rfl
  split at reads
  · next mark found =>
    cases reads
    refine .of_forall fun d mem => ?_
    rw [plain, Nat.sub_add_cancel mark.length_text_pos,
      ← List.prefix_iff_eq_take.1 (Mark.prefix_of_read? found)] at mem
    have others : (mark.text.toList.all fun d => !d.isDigit) = true := by cases mark <;> rfl
    exact Bool.not_eq_true' _ ▸ List.all_eq_true.1 others d mem
  · cases reads

end Lexeme

/-! ## Runs of words -/

namespace Word

variable {text after kept dropped left tail : List Char} {word : Word}

/-- A word is a lexeme that stands behind some blanks. -/
theorem read?_eq_some_iff (real : word.kind ≠ .endOfInput) :
    read? text = some (word, after) ↔ ∃ blanks c front lexeme,
      text = blanks ++ c :: (front ++ after) ∧ (∀ b ∈ blanks, Text.isBlank b = true) ∧
        Text.isBlank c = false ∧ Lexeme.read c (front ++ after) = .ok lexeme ∧
        lexeme.more = front.length ∧
        word = ⟨lexeme.kind, String.ofList (c :: front), lexeme.literal?⟩ := by
  constructor
  · intro reads
    have blanks := List.takeWhile_append_dropWhile (p := Text.isBlank) (l := text)
    rcases trimmed : Text.trimStart text with _ | ⟨c, more⟩
    · simp only [read?, trimmed] at reads
      cases reads
      exact absurd rfl real
    · simp only [read?, trimmed] at reads
      rw [show text.dropWhile Text.isBlank = c :: more from trimmed] at blanks
      split at reads
      · next lexeme lexed =>
        cases reads
        have whole := List.take_append_drop lexeme.more more
        have bounded := Nat.le_of_lt_succ (Lexeme.within_read lexed).2
        refine ⟨text.takeWhile Text.isBlank, c, more.take lexeme.more, lexeme, ?_,
          fun _ => List.mem_takeWhile_imp, Text.not_blank_of_trimStart trimmed, ?_,
          (List.length_take_of_le bounded).symm, rfl⟩
        · rw [List.drop_succ_cons, whole, blanks]
        · rw [List.drop_succ_cons, whole, lexed]
      · cases reads
  · rintro ⟨blanks, c, front, lexeme, rfl, allBlank, visible, lexed, more, rfl⟩
    have trimmed : Text.trimStart (blanks ++ c :: (front ++ after)) = c :: (front ++ after) := by
      rw [Text.trimStart, List.dropWhile_append_of_pos allBlank,
        List.dropWhile_cons_of_neg (by simp [visible])]
    simp only [read?, trimmed, lexed, more, List.take_succ_cons, List.drop_succ_cons,
      List.take_left, List.drop_left]

/-- A word does not end within digits. -/
theorem split_of_read? (reads : read? text = some (word, after)) (real : word.kind ≠ .endOfInput) :
    ∃ front, text = front ++ after ∧ Uncut front after := by
  obtain ⟨blanks, c, front, lexeme, rfl, _, _, lexed, more, rfl⟩ := (read?_eq_some_iff real).1 reads
  have uncut := Lexeme.uncut_read lexed
  rw [more, List.take_succ_cons, List.drop_succ_cons, List.take_left, List.drop_left] at uncut
  exact ⟨blanks ++ c :: front, by simp only [List.append_assoc, List.cons_append],
    uncut.of_ne_nil (List.cons_ne_nil c front) blanks⟩

theorem length_lt_of_read? (reads : read? text = some (word, after))
    (real : word.kind ≠ .endOfInput) : after.length < text.length := by
  obtain ⟨blanks, c, front, _, rfl, _⟩ := (read?_eq_some_iff real).1 reads
  simp only [List.length_append, List.length_cons]
  omega

/-- A word is read alike in a text that is cut behind it, unless digits are cut or a run of `$` goes
on behind the cut. -/
theorem read?_cut (halted : Halted tail) (uncut : Uncut kept dropped)
    (reads : read? (kept ++ dropped) = some (word, left ++ dropped))
    (real : word.kind ≠ .endOfInput) (ends : word.kind = .input → Shut tail ∨ left ≠ []) :
    read? (kept ++ tail) = some (word, left ++ tail) := by
  obtain ⟨blanks, c, front, lexeme, split, allBlank, visible, lexed, more, rfl⟩ :=
    (read?_eq_some_iff real).1 reads
  obtain rfl : kept = blanks ++ c :: (front ++ left) := by
    refine List.append_cancel_right (split.trans ?_)
    simp only [List.append_assoc, List.cons_append]
  refine (read?_eq_some_iff real).2
    ⟨blanks, c, front, lexeme, ?_, allBlank, visible, ?_, more, rfl⟩
  · simp only [List.append_assoc, List.cons_append]
  · rw [← List.append_assoc] at lexed ⊢
    have length : (front ++ left).length = lexeme.more + left.length := by
      rw [more, List.length_append]
    refine Lexeme.read_cut halted uncut.of_append lexed (by omega) fun isRun => ?_
    refine (ends isRun).imp_right fun some => ?_
    have positive := List.length_pos_iff.2 some
    omega

/-- The word that begins a group. -/
def groupOpen : Word := ⟨.mark .parenthesisOpen, "(", none⟩

/-- The word that ends a group. -/
def groupClose : Word := ⟨.mark .parenthesisClose, ")", none⟩

variable {blanks : List Char}

theorem read?_groupOpen (allBlank : ∀ b ∈ blanks, Text.isBlank b = true) (after : List Char) :
    read? (blanks ++ '(' :: after) = some (groupOpen, after) :=
  (read?_eq_some_iff (by nofun)).2 ⟨blanks, '(', [], .plain (.mark .parenthesisOpen) 0, rfl,
    allBlank, by decide, rfl, rfl, rfl⟩

theorem read?_groupClose (after : List Char) : read? (')' :: after) = some (groupClose, after) :=
  (read?_eq_some_iff (by nofun)).2 ⟨[], ')', [], .plain (.mark .parenthesisClose) 0, rfl,
    nofun, by decide, rfl, rfl, rfl⟩

/-- Some words stand one after another at the front of the first text, and the second text is left
behind them. -/
inductive Run : List Char → List Word → List Char → Prop
  | none {text : List Char} : Run text [] text
  | more {text after rest : List Char} {word : Word} {words : List Word}
      (reads : read? text = some (word, after)) (real : word.kind ≠ .endOfInput)
      (run : Run after words rest) : Run text (word :: words) rest

namespace Run

variable {rest : List Char} {words words' : List Word}

theorem append (run : Run text words after) (more : Run after words' rest) :
    Run text (words ++ words') rest := by
  induction run with
  | none => exact more
  | more reads real _ ih => exact .more reads real (ih more)

theorem suffix (run : Run text words rest) : rest <:+ text := by
  induction run with
  | none => exact List.suffix_rfl
  | more reads real _ ih =>
      obtain ⟨front, rfl, _⟩ := split_of_read? reads real
      exact ih.trans (List.suffix_append front _)

/-- Only what stands behind the blanks at the front of a text counts. -/
theorem trimStart (run : Run text (word :: words) rest) :
    Run (Text.trimStart text) (word :: words) rest := by
  cases run with
  | more reads real run =>
      have same : Text.trimStart (Text.trimStart text) = Text.trimStart text :=
        List.dropWhile_idempotent _ _
      exact .more ((read?_congr same).trans reads) real run

/-- The first word of a run that ends before the cut ends before it too. -/
theorem kept_of_more (reads : read? text = some (word, after)) (real : word.kind ≠ .endOfInput)
    (run : Run after words rest) (split : text = kept ++ dropped)
    (ends : rest = blanks ++ dropped) :
    ∃ front left, kept = front ++ left ∧ after = left ++ dropped ∧ Uncut front after := by
  obtain ⟨behind, same⟩ := run.suffix
  obtain ⟨front, whole, first⟩ := split_of_read? reads real
  have left : after = (behind ++ blanks) ++ dropped := by
    rw [← same, ends, List.append_assoc]
  have same : kept ++ dropped = (front ++ (behind ++ blanks)) ++ dropped := by
    rw [← split, whole, left, ← List.append_assoc]
  exact ⟨front, behind ++ blanks, List.append_cancel_right same, left, first⟩

/-- A run of words and the blanks behind it do not end within digits. -/
theorem uncut (run : Run text words rest) (split : text = kept ++ dropped)
    (ends : rest = blanks ++ dropped) (allBlank : ∀ b ∈ blanks, Text.isBlank b = true) :
    Uncut kept dropped := by
  induction run generalizing kept with
  | none =>
      obtain rfl := List.append_cancel_right (split.symm.trans ends)
      refine .of_forall fun b mem => Bool.eq_false_iff.2 fun digit => ?_
      cases (allBlank b mem).symm.trans (Text.not_isBlank_of_isDigit digit)
  | more reads real run ih =>
      obtain ⟨front, left, rfl, behind, first⟩ := kept_of_more reads real run split ends
      exact (ih behind ends).append (behind ▸ first)

theorem cut_of_uncut (halted : Halted tail) (run : Run text words rest)
    (split : text = kept ++ dropped) (ends : rest = blanks ++ dropped)
    (uncut : Uncut kept dropped)
    (free : ∀ last ∈ words.getLast?, last.kind = .input → Shut tail) :
    Run (kept ++ tail) words (blanks ++ tail) := by
  induction run generalizing kept with
  | none =>
      obtain rfl := List.append_cancel_right (split.symm.trans ends)
      exact .none
  | more reads real run ih =>
      obtain ⟨front, left, rfl, behind, _⟩ := kept_of_more reads real run split ends
      have others := ih behind ends uncut.of_append fun last mem =>
        free last (List.mem_getLast?_cons mem)
      rw [split, behind] at reads
      refine .more (read?_cut halted uncut reads real fun isRun => ?_) real others
      -- A run of words behind this one keeps it away from the cut.
      cases run with
      | none => exact .inl (free _ rfl isRun)
      | more next real' run =>
          refine .inr fun empty => ?_
          obtain ⟨_, _, _, behind', _⟩ := kept_of_more next real' run behind ends
          have shorter := length_lt_of_read? next real'
          rw [behind, behind', empty, List.length_append, List.nil_append] at shorter
          omega

/-- A run of words is the same in a text that is cut behind it and some blanks. -/
theorem cut (halted : Halted tail) (run : Run text words rest) (split : text = kept ++ dropped)
    (ends : rest = blanks ++ dropped) (allBlank : ∀ b ∈ blanks, Text.isBlank b = true)
    (free : ∀ last ∈ words.getLast?, last.kind = .input → Shut tail) :
    Run (kept ++ tail) words (blanks ++ tail) :=
  run.cut_of_uncut halted split ends (run.uncut split ends allBlank) free

end Run

end Word

/-! ## Runs of tokens -/

namespace Cursor

open Word (Run)

variable {cursor last : Cursor} {tokens tokens' : List Token}

theorem Pops.run (run : cursor.Pops tokens last) :
    Run cursor.rest (tokens.map Token.word) last.rest := by
  induction run with
  | none => exact .none
  | more pops real _ ih => exact .more (read?_of_pop pops) real ih

theorem Pops.of_append (run : cursor.Pops (tokens ++ tokens') last) :
    ∃ middle, cursor.Pops tokens middle ∧ middle.Pops tokens' last := by
  induction tokens generalizing cursor with
  | nil => exact ⟨cursor, .none, run⟩
  | cons token tokens ih =>
      cases run with
      | more pops real run =>
          obtain ⟨middle, first, second⟩ := ih run
          exact ⟨middle, .more pops real first, second⟩

theorem Pops.of_cons {token : Token} (run : cursor.Pops (token :: tokens) last) :
    ∃ popped : Popped cursor, cursor.pop = .ok popped ∧ popped.token = token ∧
      popped.next.Pops tokens last := by
  cases run with
  | more pops _ run => exact ⟨_, pops, rfl, run⟩

theorem Pops.append {middle : Cursor} (first : cursor.Pops tokens middle)
    (second : middle.Pops tokens' last) : cursor.Pops (tokens ++ tokens') last := by
  induction first with
  | none => exact second
  | more pops real _ ih => exact .more pops real (ih second)

/-- Where there is a word of a kind other than the end, one token is popped. -/
theorem pops_of_read? {word : Word} {kind : TokenKind} {after : List Char}
    (reads : Word.read? cursor.rest = some (word, after)) (same : word.kind = kind)
    (real : kind ≠ .endOfInput) :
    ∃ token next, cursor.Pops [token] next ∧ token.word = word ∧ next.rest = after := by
  obtain ⟨popped, pops, rfl, rfl⟩ := pop_of_read? reads
  have real : popped.token.kind ≠ .endOfInput := fun ended => real (same.symm.trans ended)
  exact ⟨popped.token, popped.next, .more pops real .none, rfl, rfl⟩

theorem pops_of_mark {word : Word} {mark : Mark} {after : List Char}
    (reads : Word.read? cursor.rest = some (word, after)) (same : word.kind = .mark mark) :
    ∃ token next, cursor.Pops [token] next ∧ token.word = word ∧ next.rest = after :=
  pops_of_read? reads same (by simp)

theorem Pops.passes (run : cursor.Pops tokens last) : ∃ piece, cursor.Passes piece last := by
  induction run with
  | none => exact ⟨[], rfl, rfl, rfl⟩
  | @more cursor _ popped _ pops _ _ ih =>
      obtain ⟨piece, others⟩ := ih
      exact ⟨_, (cursor.passes_skipBlanks.trans (passes_pop pops).2).trans others⟩

/-- A run of tokens stands between the first byte of its first token and the last one of its last
token. -/
theorem Pops.passes_tokens (run : cursor.Pops tokens last) (some : tokens ≠ []) :
    (tokens.head some).start = cursor.skipBlanks.position ∧
      (tokens.getLast some).stop = last.position ∧
      ∃ piece, cursor.skipBlanks.Passes piece last := by
  induction run with
  | none => exact absurd rfl some
  | @more cursor last popped tokens pops real run ih =>
      obtain ⟨start, first⟩ := passes_pop pops
      obtain ⟨piece, others⟩ := run.passes
      refine ⟨start, ?_, _, first.trans others⟩
      cases run with
      | none => exact (position_pop pops).symm
      | more => exact (ih (List.cons_ne_nil _ _)).2.1

end Cursor

/-- Where a text is cut before a token, the words before the token stay.  They end with a run of
`$` at most if a parenthesis follows. -/
theorem Cursor.Pops.cut_before {source : String} {here : Cursor} {before : List Token}
    (run : (Cursor.start source).Pops before here) :
    ∃ front gap, source.toList = front ++ here.skipBlanks.rest ∧
      here.skipBlanks.position = Text.byteLength front ∧
      (∀ b ∈ gap, Text.isBlank b = true) ∧ ∀ tail : List Char, Halted tail →
        (∀ last ∈ before.getLast?, last.kind = .input → Shut tail) →
        Word.Run (front ++ tail) (before.map Token.word) (gap ++ tail) := by
  obtain ⟨piece, passesBefore⟩ := run.passes
  have blanks := here.passes_skipBlanks
  have allBlank : ∀ b ∈ here.rest.takeWhile Text.isBlank, Text.isBlank b = true :=
    fun _ mem => List.mem_takeWhile_imp mem
  generalize here.rest.takeWhile Text.isBlank = gap at blanks allBlank
  have front := passesBefore.trans blanks
  refine ⟨piece ++ gap, gap, front.rest, front.position.trans (Nat.zero_add _), allBlank, ?_⟩
  intro tail halted free
  refine run.run.cut halted front.rest blanks.rest allBlank fun last mem => ?_
  rw [List.getLast?_map, Option.mem_map] at mem
  obtain ⟨token, isLast, rfl⟩ := mem
  exact free token isLast

/-! ## Texts with parentheses -/

/-- The text with parentheses around what stands from byte `start` up to byte `stop`. -/
def Text.parenthesize (source : String) (start stop : Nat) : String :=
  let (before, rest) := splitAtByte start source.toList
  let (inside, after) := splitAtByte (stop - start) rest
  String.ofList (before ++ '(' :: (inside ++ ')' :: after))

theorem Text.toList_parenthesize {source : String} {before inside after : List Char}
    (split : source.toList = before ++ (inside ++ after)) :
    (parenthesize source (byteLength before) (byteLength before + byteLength inside)).toList =
      before ++ '(' :: (inside ++ ')' :: after) := by
  simp only [parenthesize, split, splitAtByte_append, Nat.add_sub_cancel_left, String.toList_ofList]

/-- Parentheses around some tokens of a text are words of their own, and all other words stay. -/
theorem Cursor.Pops.words_parenthesize {source : String} {last : Cursor}
    {before part after : List Token} (some : part ≠ [])
    (run : (Cursor.start source).Pops (before ++ (part ++ after)) last) :
    Word.Run (Text.parenthesize source (part.head some).start (part.getLast some).stop).toList
      (before.map Token.word ++ Word.groupOpen :: (part.map Token.word ++
        Word.groupClose :: after.map Token.word)) last.rest := by
  obtain ⟨first, runBefore, run⟩ := run.of_append
  obtain ⟨second, runPart, runAfter⟩ := run.of_append
  obtain ⟨front, gap, split, position, allBlank, cut⟩ := runBefore.cut_before
  obtain ⟨start, stop, inside, passesPart⟩ := runPart.passes_tokens some
  rw [passesPart.rest] at split
  have starts : (part.head some).start = Text.byteLength front := start.trans position
  have stops : (part.getLast some).stop = Text.byteLength front + Text.byteLength inside := by
    rw [stop, passesPart.position, position]
  rw [starts, stops, Text.toList_parenthesize split]
  have wordsBefore := cut ('(' :: (inside ++ ')' :: second.rest)) Shut.opening.halted
    fun _ _ _ => .opening
  have wordsPart : Word.Run (inside ++ ')' :: second.rest) (part.map Token.word)
      ([] ++ ')' :: second.rest) := by
    refine Word.Run.cut Shut.closing.halted ?_ passesPart.rest (List.nil_append _).symm nofun
      fun _ _ _ => .closing
    rw [Cursor.rest_skipBlanks]
    cases part with
    | nil => exact absurd rfl some
    | cons => exact runPart.run.trimStart
  exact wordsBefore.append (.more (Word.read?_groupOpen allBlank _) nofun
    (wordsPart.append (.more (Word.read?_groupClose _) nofun runAfter.run)))

end RecordQuery
