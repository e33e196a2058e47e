import RecordQuery.Proofs.Grammar.Parallel
import RecordQuery.Proofs.Tokens.Scanner

/-!
# Reading stays in bounds

Places in a query are bytes, and a place that is no boundary of a character, or that lies behind the
end, cannot be used to cut the query.  No such place comes up: neither the cursor, nor a token, nor
the span of an error, nor the line that a report shows (`reading_in_bounds`).

A cursor carries the text that is left, so it stands at a boundary wherever it is.  A scanner does
not: it computes with numbers of bytes and has a check before every cut.  It never fails one, since
it answers every request as a cursor at its place does.  For tokens and errors it has to be shown
that they are cut out between two cursors.  For the lexer this is read off one pop.  For the parser
it is half of what is known of two runs over one and the same type.
-/

set_option autoImplicit false

namespace RecordQuery

open Text (Slice byteLength byteLength_append)

variable {ρ : Type}

/-! ## Cursors -/

namespace Lexeme

variable {c : Char} {text : List Char} {lexeme : Lexeme} {fault : LexemeFault}

theorem extent_readNumber (fails : readNumber text = .error fault) :
    fault.extent ≤ text.length ∧ fault.passed ≤ text.length := by
  have digits := congrArg List.length (digitRun_split text)
  rw [List.length_append] at digits
  have timed : ∀ {τ : Type} {length : Nat} {literal : τ → Literal} {value : Except NotationFault τ},
      ofTime text length literal value = .error fault →
      fault.extent ≤ text.length ∧ fault.passed ≤ text.length := by
    intro τ length literal value fails
    cases value with
    | ok time => cases fails
    | error wrong =>
        cases fails
        exact ⟨by simp only; omega, Nat.zero_le _⟩
  unfold readNumber at fails
  split at fails
  · exact timed fails
  split at fails
  · exact timed fails
  unfold readPlainNumber at fails
  simp only at fails
  split at fails
  · cases fails
  split at fails
  · cases fails
  · cases fails
    exact ⟨by simp only; omega, by simp only; omega⟩

/-- No more characters are blamed or passed over than there are. -/
theorem extent_read (fails : read c text = .error fault) :
    fault.extent ≤ (c :: text).length ∧ fault.passed ≤ (c :: text).length := by
  unfold read at fails
  split at fails
  · cases fails
  split at fails
  · cases fails
  split at fails
  · exact extent_readNumber fails
  split at fails
  · cases fails
  split at fails
  · unfold readString at fails
    simp only at fails
    split at fails
    · cases fails
    · cases fails
      exact ⟨Nat.le_refl _, Nat.le_refl _⟩
  split at fails
  · cases fails
  · cases fails
    exact ⟨Nat.le_add_left 1 _, Nat.zero_le _⟩

/-- What asks for an input is a run of `$`. -/
theorem run_of_read (reads : read c text = .ok lexeme) (isRun : lexeme.kind = .input) :
    ∀ mark ∈ (c :: text).take (lexeme.more + 1), mark = '$' := by
  unfold read at reads
  split at reads
  · obtain rfl := Except.ok.inj reads
    rcases ofWord_cases (String.ofList (c :: text.takeWhile continuesWord)) with
      ⟨truth, same⟩ | ⟨kind, ofWords, same⟩
    · rw [same] at isRun
      cases isRun
    · rw [same] at isRun
      obtain rfl : kind = .input := isRun
      exact absurd ofWords (by decide)
  split at reads
  · next first =>
    cases reads
    simp only [plain, List.take_succ_cons, List.forall_mem_cons]
    refine ⟨first, fun mark mem => ?_⟩
    rw [← List.prefix_iff_eq_take.1 (List.takeWhile_prefix (· = '$'))] at mem
    simpa using List.mem_takeWhile_imp mem
  split at reads
  · obtain ⟨length, literal, rfl, _⟩ := readNumber_cases reads
    cases isRun
  split at reads
  · cases reads
    cases isRun
  split at reads
  · obtain ⟨_, _, _, _, rfl⟩ := take_readString reads
    cases isRun
  split at reads
  · cases reads
    cases isRun
  · cases reads

end Lexeme

/-- A cursor stands at a boundary in the text, and no more is read there than is left. -/
structure Cursor.InBounds (source : String) (cursor : Cursor) : Prop where
  source_eq : cursor.source = source
  inside : cursor.position ≤ source.utf8ByteSize
  boundary : String.Pos.Raw.IsValid source ⟨cursor.position⟩
  rest : Slice source cursor.position source.utf8ByteSize cursor.rest
  lexeme : ∀ {c text lexeme}, cursor.skipBlanks.rest = c :: text →
    Lexeme.read c text = .ok lexeme → lexeme.more < (c :: text).length
  fault : ∀ {c text fault}, cursor.skipBlanks.rest = c :: text →
    Lexeme.read c text = .error fault →
    fault.extent ≤ (c :: text).length ∧ fault.passed ≤ (c :: text).length

theorem Cursor.inBounds {source : String} {cursor : Cursor} (here : cursor.source = source) :
    cursor.InBounds source where
  source_eq := here
  inside := here ▸ cursor.slice_rest.start_le_stop
  boundary := here ▸ cursor.slice_rest.isValid.1
  rest := here ▸ cursor.slice_rest
  lexeme _ reads := (Lexeme.within_read reads).2
  fault _ fails := Lexeme.extent_read fails

/-- A scanner is at a boundary in the text. -/
structure Scanner.InBounds (source : String) (scanner : Scanner) : Prop where
  source_eq : scanner.source = source
  inside : scanner.position ≤ source.utf8ByteSize
  boundary : String.Pos.Raw.IsValid source ⟨scanner.position⟩

/-- At the place of a cursor a scanner is in bounds. -/
theorem Cursor.InBounds.scanner {source : String} {cursor : Cursor}
    (bounds : cursor.InBounds source) : cursor.scanner.InBounds source :=
  ⟨bounds.source_eq, bounds.inside, bounds.boundary⟩

/-! ## Tokens -/

/-- A token is a slice of the text.  Where it is a string, its first and its last byte can be cut
off, and where it is a run of `$`, it has a first byte and as many bytes as characters. -/
structure Token.InBounds (source : String) (token : Token) : Prop where
  ordered : token.start ≤ token.stop
  inside : token.stop ≤ source.utf8ByteSize
  slice : Slice source token.start token.stop token.lexeme.toList
  content : ∀ {value}, token.literal? = some (.string value) →
    Slice token.lexeme 1 (token.lexeme.utf8ByteSize - 1) value.toList
  run : token.kind = .input → 1 ≤ token.lexeme.utf8ByteSize ∧
    token.lexeme.toList.length = token.lexeme.utf8ByteSize

theorem byteLength_run {text : List Char} (marks : ∀ mark ∈ text, mark = '$') :
    byteLength text = text.length := by
  induction text with
  | nil => rfl
  | cons mark text ih =>
      obtain ⟨rfl, others⟩ := List.forall_mem_cons.1 marks
      rw [byteLength, ih others, List.length_cons, Nat.add_comm]
      rfl

theorem Cursor.inBounds_token {source : String} {cursor : Cursor} {popped : Popped cursor}
    (here : cursor.source = source) (pops : cursor.pop = .ok popped) :
    popped.token.InBounds source := by
  have slice := here ▸ slice_pop pops
  refine ⟨slice.start_le_stop, slice.stop_le, slice, ?_, ?_⟩
  · exact fun carries => Text.slice_of_quotes ((carries_iff_quotes pops).1 carries).1
  · intro isRun
    rcases pop_eq_ok pops with ⟨_, token, _⟩ | ⟨c, text, lexeme, _, reads, token, _⟩
    · rw [token] at isRun
      cases isRun
    · rw [token] at isRun ⊢
      have marks := byteLength_run (Lexeme.run_of_read reads isRun)
      rw [Text.byteLength_eq_utf8ByteSize] at marks
      rw [String.toList_ofList, marks, List.take_succ_cons, List.length_cons]
      exact ⟨Nat.succ_pos _, rfl⟩

/-! ## Scopes -/

/-- The innermost input is the last one from the outside in.  A run of `$` is one of them by its
place, or it is longer than there are inputs and is refused. -/
structure Scope.InBounds (scope : Scope ρ) : Prop where
  current : scope.types[scope.types.length - 1]? = some scope.current
  climbs : ∀ {lexeme : String}, lexeme.toList.length - 1 ≤ scope.depth →
    ∃ type, scope.types[scope.depth - (lexeme.toList.length - 1)]? = some type ∧
      scope.inputOf lexeme = .ok (.input (scope.depth - (lexeme.toList.length - 1)) type)
  refuses : ∀ {lexeme : String}, scope.depth < lexeme.toList.length - 1 →
    ∃ cause, scope.inputOf lexeme = .error cause

theorem Scope.inBounds (scope : Scope ρ) : scope.InBounds where
  current := by
    have innermost := scope.getElem?_types (show (scope.current :: scope.outer)[0]? = _ from rfl)
    rwa [scope.length_types]
  climbs := by
    intro lexeme inside
    have bound : lexeme.toList.length - 1 < (scope.current :: scope.outer).length :=
      Nat.lt_succ_of_le inside
    have found := List.getElem?_eq_getElem bound
    exact ⟨_, scope.getElem?_types found, inputOf_eq_ok_iff.2 ⟨_, found, rfl⟩⟩
  refuses := by
    intro lexeme outside
    have missing : (scope.current :: scope.outer)[lexeme.toList.length - 1]? = none :=
      List.getElem?_eq_none outside
    simp only [inputOf, missing]
    exact ⟨_, rfl⟩

/-! ## Reports -/

namespace Text

/-- From the first byte to the second one there is the start of a line, with nothing before it or
the line feed of the line before. -/
def LineStart (source : String) (start stop : Nat) : Prop :=
  (∃ piece, Slice source start stop piece ∧ '\n' ∉ piece) ∧
    (start = 0 ∨ Slice source (start - 1) start ['\n'])

/-- From the first byte to the second one there is the rest of a line, with nothing behind it or a
line feed. -/
def LineStop (source : String) (start stop : Nat) : Prop :=
  (∃ piece, Slice source start stop piece ∧ '\n' ∉ piece) ∧
    (stop = source.utf8ByteSize ∨ Slice source stop (stop + 1) ['\n'])

end Text

namespace CompileError

/-- The line at the start of a span is a slice of the text, and so are its parts before the span,
inside it and behind it.  The span is cut at the end of the line, which is not before its start. -/
def LineInBounds (source : String) (start stop : Nat) : Prop :=
  ∃ lineStart lineStop, Text.LineStart source lineStart start ∧
    Text.LineStop source start lineStop ∧ start ≤ lineStop ∧
    Slice source lineStart start (lineParts source.toList start stop).1 ∧
    Slice source start (max start (min stop lineStop)) (lineParts source.toList start stop).2.1 ∧
    Slice source (max start (min stop lineStop)) lineStop (lineParts source.toList start stop).2.2

theorem lineParts_slice (before piece after : List Char) :
    lineParts (before ++ piece ++ after) (byteLength before) (byteLength (before ++ piece)) =
      if '\n' ∈ piece then (lastLine before, piece.takeWhile (· ≠ '\n'), [])
      else (lastLine before, piece, after.takeWhile (· ≠ '\n')) := by
  rw [lineParts, List.append_assoc, Text.splitAtByte_append, byteLength_append,
    Nat.add_sub_cancel_left]
  simp only [Text.splitAtByte_append]

theorem lineStart_lastLine {source : String} {before after : List Char}
    (split : source.toList = before ++ after) :
    ∃ lineStart, Text.LineStart source lineStart (byteLength before) ∧
      Slice source lineStart (byteLength before) (lastLine before) := by
  obtain ⟨rest, reversed, unbroken, ends⟩ := Text.exists_takeWhile_ne '\n' before.reverse
  have whole : before = rest.reverse ++ lastLine before := by
    rw [lastLine, ← List.reverse_append, ← reversed, List.reverse_reverse]
  have slice : Slice source (byteLength rest.reverse) (byteLength before) (lastLine before) :=
    ⟨rest.reverse, after, by rw [← whole, split], rfl, by rw [← whole]⟩
  refine ⟨_, ⟨⟨_, slice, ?_⟩, ?_⟩, slice⟩
  · rwa [lastLine, List.mem_reverse]
  · rcases ends with rfl | ⟨more, rfl⟩
    · exact .inl rfl
    · refine .inr ⟨more.reverse, lastLine before ++ after, ?_, ?_, by rw [List.reverse_cons]⟩
      · rw [split]
        conv_lhs => rw [whole]
        simp
      · rw [List.reverse_cons, byteLength_append]
        rfl

theorem lineStop_takeWhile {source : String} {before rest : List Char}
    (split : source.toList = before ++ rest) :
    Text.LineStop source (byteLength before)
      (byteLength (before ++ rest.takeWhile (· ≠ '\n'))) := by
  obtain ⟨behind, whole, unbroken, ends⟩ := Text.exists_takeWhile_ne '\n' rest
  have parts : source.toList = before ++ rest.takeWhile (· ≠ '\n') ++ behind := by
    rw [List.append_assoc, ← whole, split]
  refine ⟨⟨_, ⟨before, behind, parts, rfl, rfl⟩, unbroken⟩, ?_⟩
  rcases ends with rfl | ⟨more, rfl⟩
  · refine .inl ?_
    rw [← Text.byteLength_toList, parts, List.append_nil]
  · refine .inr ⟨_, more, by rw [parts, List.append_cons], rfl, ?_⟩
    rw [byteLength_append]
    rfl

theorem lineInBounds {source : String} {start stop : Nat} {piece : List Char}
    (slice : Slice source start stop piece) : LineInBounds source start stop := by
  obtain ⟨before, after, split, rfl, rfl⟩ := slice
  have split' : source.toList = before ++ (piece ++ after) := by rw [split, List.append_assoc]
  obtain ⟨lineStart, starts, front⟩ := lineStart_lastLine split'
  have stops := lineStop_takeWhile split'
  obtain ⟨rest, whole, unbroken, _⟩ := Text.exists_takeWhile_ne '\n' piece
  refine ⟨lineStart, _, starts, stops, ?_, ?_⟩
  · rw [byteLength_append]
    exact Nat.le_add_right _ _
  rw [split, lineParts_slice, List.takeWhile_append]
  split
  -- The line ends inside the span.
  · next broken =>
    rw [if_neg ?_]
    · generalize piece.takeWhile (· ≠ '\n') = inside at whole
      subst whole
      have cut : max (byteLength before) (min (byteLength (before ++ (inside ++ rest)))
          (byteLength (before ++ inside))) = byteLength (before ++ inside) := by
        simp only [byteLength_append]
        omega
      rw [cut]
      exact ⟨front, ⟨before, rest ++ after, by simp [split], rfl, rfl⟩,
        ⟨before ++ inside, rest ++ after, by simp [split], rfl, by rw [List.append_nil]⟩⟩
    · intro all
      rw [(List.takeWhile_prefix _).eq_of_length all] at unbroken
      exact unbroken broken
  -- The span ends on the line.
  · next inside =>
    have all : piece.takeWhile (· ≠ '\n') = piece :=
      List.takeWhile_eq_self_iff.2 fun c mem => by
        simpa using fun same : c = '\n' => inside (same ▸ mem)
    rw [if_pos (congrArg List.length all)]
    obtain ⟨behind, line, _⟩ := Text.exists_takeWhile_ne '\n' after
    generalize after.takeWhile (· ≠ '\n') = others at line
    subst line
    have cut : max (byteLength before) (min (byteLength (before ++ piece))
        (byteLength (before ++ (piece ++ others)))) = byteLength (before ++ piece) := by
      simp only [byteLength_append]
      omega
    rw [cut]
    exact ⟨front, ⟨before, others ++ behind, split, rfl, rfl⟩,
      ⟨before ++ piece, behind, by simp [split], rfl, by rw [List.append_assoc]⟩⟩

/-- The span of an error is cut out of the text at boundaries, and so is what a report shows. -/
structure InBounds (source : String) (error : CompileError) : Prop where
  source_eq : error.source = source
  ordered : error.start ≤ error.stop
  inside : error.stop ≤ source.utf8ByteSize
  start_boundary : String.Pos.Raw.IsValid source ⟨error.start⟩
  stop_boundary : String.Pos.Raw.IsValid source ⟨error.stop⟩
  line : LineInBounds source error.start error.stop

theorem Within.inBounds {source : String} {error : CompileError} (within : error.Within source) :
    error.InBounds source := by
  obtain ⟨here, piece, slice⟩ := within
  exact ⟨here, slice.start_le_stop, slice.stop_le, slice.isValid.1, slice.isValid.2,
    lineInBounds slice⟩

end CompileError

/-! ## Readers -/

/-- A cursor in bounds is behind what was read, or there is an error in bounds and a cursor from
which reading can go on. -/
def Bounded (source : String) {α : Type} (next : α → Cursor) : Except Stuck α → Prop
  | .ok read => (next read).InBounds source
  | .error stuck => stuck.error.InBounds source ∧ stuck.cursor.InBounds source

theorem Together.bounded {source : String} {α α' : Type} {results : α → α' → Prop}
    {next : α → Cursor} {result : Except Stuck α} {result' : Except Stuck α'}
    (together : Together (Stuck.Alike source) results result result')
    (behind : ∀ value value', results value value' → (next value).source = source) :
    Bounded source next result := by
  cases together with
  | ok same => exact Cursor.inBounds (behind _ _ same)
  | error stuck => exact ⟨stuck.errors.within.inBounds, Cursor.inBounds stuck.source_eq⟩

theorem Together.inBounds_error {source : String} {α α' : Type} {results : α → α' → Prop}
    {result : Except CompileError α} {result' : Except CompileError α'} {error : CompileError}
    (together : Together (CompileError.Alike source) results result result')
    (fails : result = .error error) : error.InBounds source := by
  subst fails
  cases together with
  | error errors => exact errors.within.inBounds

/-- Every token that was popped on the way is in bounds. -/
theorem Cursor.Pops.inBounds {source : String} {cursor last : Cursor} {tokens : List Token}
    (run : cursor.Pops tokens last) (here : cursor.source = source) :
    last.InBounds source ∧ ∀ token ∈ tokens, token.InBounds source := by
  induction run with
  | none => exact ⟨Cursor.inBounds here, fun _ mem => absurd mem List.not_mem_nil⟩
  | more pops real _ ih =>
      obtain ⟨inside, others⟩ := ih ((source_pop pops).trans here)
      exact ⟨inside, List.forall_mem_cons.2 ⟨Cursor.inBounds_token here pops, others⟩⟩

open Cursor in
/-- Reading a query never leaves its bounds.  A scanner that is asked for tokens from the start of
the query on, again and again and also after errors, never fails a check, gives the answers of a
cursor and stays in bounds; at the place of any cursor it does what the cursor does.  The cursor
starts in bounds, and it is in bounds after any number of characters, after every token, and after
every expression and query that was read or was not.  What is popped is in bounds, and so is every
error. -/
theorem reading_in_bounds (now : DateTime) (type : ValueType ρ) (source : String) :
    (∀ requests, ∃ last : Scanner, last.InBounds source ∧
      (Scanner.start source).run? requests =
        some ((Cursor.start source).answers requests, last)) ∧
    (Cursor.start source).InBounds source ∧
    (∀ cursor : Cursor, cursor.InBounds source →
      (∀ request, cursor.scanner.ask? request =
        some ((cursor.ask request).1, (cursor.ask request).2.scanner)) ∧
      (∀ count, (cursor.advance count).InBounds source) ∧
      Bounded source Popped.next cursor.pop ∧ Bounded source Popped.next cursor.lookahead ∧
      (∀ popped, cursor.pop = .ok popped → popped.token.InBounds source) ∧
      (∀ kind, Bounded source (fun taken => taken.1.next) (cursor.require kind)) ∧
      ∀ scope : Scope ρ, scope.InBounds ∧
        (∀ floor, Bounded source Later.next (Parser.expression now scope floor cursor)) ∧
        Bounded source NotEarlier.next (Parser.query now scope cursor)) ∧
    (∀ tokens last, (Cursor.start source).Pops tokens last →
      last.InBounds source ∧ ∀ token ∈ tokens, token.InBounds source) ∧
    (∀ error, tokenize source = .error error → error.InBounds source) ∧
    ∀ error, parse now type source = .error error → error.InBounds source := by
  have same : Indistinct (fun _ => True) (@Eq (ValueType ρ)) := .eq _
  have scopes : ∀ scope : Scope ρ, scope.Similar Eq scope :=
    fun scope => ⟨rfl, List.forall₂_same.2 fun _ _ => rfl⟩
  refine ⟨?_, inBounds rfl, ?_, fun _ _ run => run.inBounds rfl, ?_, ?_⟩
  · intro requests
    obtain ⟨last, here, runs⟩ := Scanner.run?_eq (Cursor.start source) requests
    exact ⟨last.scanner, (inBounds here).scanner, runs⟩
  · intro cursor inside
    have here := inside.source_eq
    have asks : cursor.Asks source fun _ => True := .any here
    refine ⟨Scanner.ask?_eq cursor, fun _ => inBounds here,
      asks.pop.bounded fun _ _ popped => popped.source_eq,
      asks.lookahead.bounded fun _ _ popped => popped.source_eq,
      fun _ pops => inBounds_token here pops,
      fun kind => (asks.require kind).bounded fun _ _ taken => taken.2.source_eq,
      fun scope => ⟨scope.inBounds, fun floor => ?_, ?_⟩⟩
    · refine (Parser.expression_together same asks (scopes scope)).bounded ?_
      rintro _ _ ⟨asks, _⟩
      exact asks.source_eq
    · exact (Parser.query_together same asks (scopes scope)).bounded fun _ _ read => read.1
  · intro error fails
    obtain ⟨stuck, uncut, rfl⟩ := mapError_eq_error_iff.1 fails
    obtain ⟨before, last, run, stops⟩ := tokens_eq_error uncut
    exact (within_pop_error (run.inBounds rfl).1.source_eq stops).1.inBounds
  · intro error fails
    exact (parse_together same rfl (.any rfl)).inBounds_error fails

example : ∃ error, tokenize "a == \"ß" = .error error ∧ error.start = 5 ∧ error.stop = 8 :=
  ⟨_, by cbv, rfl, rfl⟩

end RecordQuery
