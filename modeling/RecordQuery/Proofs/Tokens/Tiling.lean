import RecordQuery.Proofs.Grammar.Spacing
import RecordQuery.Proofs.Tokens.Slice

/-!
# Tokens tile their text

Cutting a query into tokens drops nothing but blanks.  Each token is the slice of the query between
its two bytes, and what stands between two tokens, before the first one and behind the last one is
blank (`Tiles`).

One token is popped at a time.  What popping does is said once, for a token (`Cursor.pop_eq_ok`) and
for a text that begins with none (`Cursor.pop_eq_error`); a sequence of tokens is a run of pops
(`Cursor.Pops`).  A query that is cut into tokens ends with a run up to its end, and a query that
is not ends with a run up to the place that is to blame (`tokenize_tiles`).
-/

set_option autoImplicit false

namespace RecordQuery

open Text (Slice digitRun)

/-! ## Texts up to a character -/

/-- A text up to the first character of a kind, and what begins with that. -/
theorem Text.exists_takeWhile_ne (mark : Char) (text : List Char) :
    ∃ rest, text = text.takeWhile (· ≠ mark) ++ rest ∧ mark ∉ text.takeWhile (· ≠ mark) ∧
      (rest = [] ∨ ∃ more, rest = mark :: more) := by
  refine ⟨text.dropWhile (· ≠ mark), List.takeWhile_append_dropWhile.symm, ?_, ?_⟩
  · intro mem
    simpa using List.mem_takeWhile_imp mem
  · cases left : text.dropWhile (· ≠ mark) with
    | nil => exact .inl rfl
    | cons c more =>
        have some : text.dropWhile (· ≠ mark) ≠ [] := left ▸ List.cons_ne_nil _ _
        have head := List.head_dropWhile_not (· ≠ mark) some
        simp only [left, List.head_cons] at head
        exact .inr ⟨more, by rw [show c = mark by simpa using head]⟩

/-! ## Lexemes -/

/-- A token writes a text if it is the text between two quotes, none of which is in the text. -/
def Quotes (lexeme : List Char) (value : String) : Prop :=
  lexeme = '"' :: (value.toList ++ ['"']) ∧ '"' ∉ value.toList

namespace Lexeme

variable {c : Char} {text : List Char} {lexeme : Lexeme} {fault : LexemeFault} {value : String}

/-- A time is a literal and no text. -/
theorem ofTime_cases {τ : Type} {length : Nat} {literal : τ → Literal}
    {result : Except NotationFault τ} (reads : ofTime text length literal result = .ok lexeme)
    (other : ∀ time value, literal time ≠ .string value) :
    ∃ length literal, lexeme = ofLiteral length literal ∧ ∀ value, literal ≠ .string value := by
  cases result with
  | error fault => cases reads
  | ok time =>
      cases reads
      exact ⟨length, literal time, rfl, other time⟩

/-- What begins with a digit is a literal and no text. -/
theorem readNumber_cases (reads : readNumber text = .ok lexeme) :
    ∃ length literal, lexeme = ofLiteral length literal ∧ ∀ value, literal ≠ .string value := by
  unfold readNumber at reads
  split at reads
  · exact ofTime_cases reads fun _ _ => nofun
  split at reads
  · exact ofTime_cases reads fun _ _ => nofun
  unfold readPlainNumber at reads
  simp only at reads
  split at reads
  · cases reads
    exact ⟨_, _, rfl, fun _ => nofun⟩
  split at reads
  · cases reads
    exact ⟨_, _, rfl, fun _ => nofun⟩
  · cases reads

/-- A word is a truth value, or it carries no value and is of a kind of words. -/
theorem ofWord_cases (word : String) :
    (∃ truth, ofWord word = ofLiteral word.toList.length (.boolean truth)) ∨
      ∃ kind ∈ [TokenKind.now, .quantifier, .identifier],
        ofWord word = plain kind (word.toList.length - 1) := by
  unfold ofWord
  simp only
  split
  · exact .inl ⟨true, rfl⟩
  split
  · exact .inl ⟨false, rfl⟩
  split
  · exact .inr ⟨.now, by decide, rfl⟩
  split
  · exact .inr ⟨.quantifier, by decide, rfl⟩
  · exact .inr ⟨.identifier, by decide, rfl⟩

/-- The characters of a text up to the first quote, and the quote. -/
theorem take_readString (reads : readString text = .ok lexeme) :
    ∃ content after, text = content ++ '"' :: after ∧ '"' ∉ content ∧
      lexeme = ofLiteral (content.length + 2) (.string (String.ofList content)) := by
  unfold readString at reads
  simp only at reads
  split at reads
  · next closed =>
    cases reads
    obtain ⟨rest, split, unquoted, ends⟩ := Text.exists_takeWhile_ne '"' text
    rcases ends with rfl | ⟨after, rfl⟩
    · rw [List.append_nil] at split
      exact absurd (congrArg List.length split.symm) (Nat.ne_of_lt closed)
    · exact ⟨_, after, split, unquoted, rfl⟩
  · cases reads

/-- A lexeme that carries a text is that text between two quotes. -/
theorem quotes_of_read (reads : read c text = .ok lexeme)
    (carries : lexeme.literal? = some (.string value)) :
    Quotes ((c :: text).take (lexeme.more + 1)) value := by
  unfold read at reads
  split at reads
  · obtain rfl := Except.ok.inj reads
    rcases ofWord_cases (String.ofList (c :: text.takeWhile continuesWord)) with
      ⟨truth, same⟩ | ⟨kind, _, same⟩ <;>
      · rw [same] at carries
        cases carries
  split at reads
  · cases reads
    cases carries
  split at reads
  · obtain ⟨length, literal, rfl, other⟩ := readNumber_cases reads
    exact absurd (Option.some.inj carries) (other value)
  split at reads
  · cases reads
    cases carries
  split at reads
  · next quote =>
    obtain ⟨content, after, rfl, unquoted, rfl⟩ := take_readString reads
    cases carries
    rw [Quotes, String.toList_ofList, quote]
    refine ⟨?_, unquoted⟩
    rw [List.take_succ_cons]
    exact congrArg ('"' :: ·) (List.take_length_add_append 1)
  split at reads
  · cases reads
    cases carries
  · cases reads

theorem read_quote (text : List Char) : read '"' text = readString text := by
  rw [read, if_neg (by decide), if_neg (by decide), if_neg (by decide),
    if_neg (fun both => absurd both.1 (by decide)), if_pos rfl]

/-- A lexeme carries a text exactly if it is that text between two quotes. -/
theorem carries_iff_quotes (reads : read c text = .ok lexeme) :
    lexeme.literal? = some (.string value) ↔
      Quotes ((c :: text).take (lexeme.more + 1)) value := by
  refine ⟨quotes_of_read reads, fun ⟨written, _⟩ => ?_⟩
  rw [List.take_succ_cons, List.cons.injEq] at written
  obtain ⟨rfl, written⟩ := written
  rw [read_quote] at reads
  obtain ⟨content, after, rfl, _, rfl⟩ := take_readString reads
  have front : (content ++ '"' :: after).take
      (ofLiteral (content.length + 2) (.string (String.ofList content))).more =
      content ++ ['"'] := List.take_length_add_append 1
  obtain rfl : content = value.toList := List.append_cancel_right (front.symm.trans written)
  rw [String.ofList_toList]
  rfl

end Lexeme

/-! ## Pops -/

/-- Behind its blanks a text goes on with something else. -/
theorem Text.not_blank_of_trimStart {text more : List Char} {c : Char}
    (left : Text.trimStart text = c :: more) : Text.isBlank c = false := by
  rw [Text.trimStart] at left
  have some : text.dropWhile Text.isBlank ≠ [] := left ▸ List.cons_ne_nil _ _
  have head := List.head_dropWhile_not Text.isBlank some
  simpa only [left, List.head_cons] using head

theorem Text.not_isBlank_of_isDigit {c : Char} (digit : c.isDigit = true) :
    Text.isBlank c = false := by
  have bounds : 48 ≤ c.toNat ∧ c.toNat ≤ 57 := by
    simpa [Char.isDigit, UInt32.le_iff_toNat_le] using digit
  simp only [Text.isBlank, Bool.or_eq_false_iff, Bool.and_eq_false_iff, decide_eq_false_iff_not,
    beq_eq_false_iff_ne]
  omega

/-- A step with another error fails when the step fails. -/
theorem mapError_eq_error_iff {ε ε' α : Type} {x : Except ε α} {f : ε → ε'} {e' : ε'} :
    x.mapError f = .error e' ↔ ∃ e, x = .error e ∧ f e = e' := by
  cases x with
  | error e => simp [Except.mapError]
  | ok a => simp [Except.mapError]

namespace Cursor

variable {cursor : Cursor}

/-- What is popped is the end, or the lexeme that the text begins with behind its blanks. -/
theorem pop_eq_ok {popped : Popped cursor} (pops : cursor.pop = .ok popped) :
    (cursor.skipBlanks.rest = [] ∧
      popped.token = ⟨cursor.skipBlanks.position, .endOfInput, "", none⟩ ∧
      popped.next = cursor.skipBlanks) ∨
    ∃ c text lexeme, cursor.skipBlanks.rest = c :: text ∧ Lexeme.read c text = .ok lexeme ∧
      popped.token = ⟨cursor.skipBlanks.position, lexeme.kind,
        String.ofList ((c :: text).take (lexeme.more + 1)), lexeme.literal?⟩ ∧
      popped.next = cursor.skipBlanks.advance (lexeme.more + 1) := by
  unfold pop at pops
  simp only at pops
  split at pops
  · next left =>
    cases pops
    exact .inl ⟨left, rfl, rfl⟩
  · next c text left =>
    split at pops
    · next lexeme reads =>
      cases pops
      exact .inr ⟨c, text, lexeme, left, reads, rfl, rfl⟩
    · cases pops

/-- Nothing is popped where no lexeme begins behind the blanks, and the error begins there. -/
theorem pop_eq_error {stuck : Stuck} (fails : cursor.pop = .error stuck) :
    ∃ c text fault, cursor.skipBlanks.rest = c :: text ∧ Lexeme.read c text = .error fault ∧
      stuck = ⟨⟨cursor.source, cursor.skipBlanks.position,
        (cursor.skipBlanks.advance fault.extent).position, fault.cause⟩,
        cursor.skipBlanks.advance fault.passed⟩ := by
  unfold pop at fails
  simp only at fails
  split at fails
  · cases fails
  · next c text left =>
    split at fails
    · cases fails
    · next fault reads =>
      cases fails
      exact ⟨c, text, fault, left, reads, rfl⟩

/-- A token starts behind the blanks, and the cursor behind it has passed its lexeme. -/
theorem passes_pop {popped : Popped cursor} (pops : cursor.pop = .ok popped) :
    popped.token.start = cursor.skipBlanks.position ∧
      cursor.skipBlanks.Passes popped.token.lexeme.toList popped.next := by
  rcases pop_eq_ok pops with ⟨_, token, next⟩ | ⟨c, text, lexeme, left, _, token, next⟩
  · rw [token, next]
    exact ⟨rfl, rfl, rfl, rfl⟩
  · rw [token, next, ← left, String.toList_ofList]
    exact ⟨rfl, passes_advance _ _⟩

/-- The end is popped where nothing is left, and it is the only empty token. -/
theorem pop_endOfInput_iff {popped : Popped cursor} (pops : cursor.pop = .ok popped) :
    (popped.token.kind = .endOfInput ↔ cursor.skipBlanks.rest = []) ∧
      (popped.token.kind = .endOfInput ↔ popped.token.lexeme = "") := by
  rcases pop_eq_ok pops with ⟨left, token, _⟩ | ⟨c, text, lexeme, left, reads, token, _⟩
  · simp [left, token]
  · have real := (Lexeme.within_read reads).1
    simp [left, token, real]

/-- Tokens other than the end are popped one after another. -/
inductive Pops : Cursor → List Token → Cursor → Prop
  | none {cursor : Cursor} : Pops cursor [] cursor
  | more {cursor last : Cursor} {popped : Popped cursor} {tokens : List Token}
      (pops : cursor.pop = .ok popped) (real : popped.token.kind ≠ .endOfInput)
      (run : Pops popped.next tokens last) : Pops cursor (popped.token :: tokens) last

/-- The tokens of a query are a run of pops and the end. -/
theorem tokens_eq_ok {cursor : Cursor} {tokens : List Token} (cuts : cursor.tokens = .ok tokens) :
    ∃ before last, ∃ popped : Popped last, cursor.Pops before last ∧ last.pop = .ok popped ∧
      popped.token.kind = .endOfInput ∧ tokens = before ++ [popped.token] := by
  rw [Cursor.tokens] at cuts
  obtain ⟨popped, pops, cuts⟩ := bind_eq_ok_iff.1 cuts
  split at cuts
  · next ended =>
    cases cuts
    exact ⟨[], cursor, popped, .none, pops, ended, rfl⟩
  · next real =>
    obtain ⟨others, rest, cuts⟩ := bind_eq_ok_iff.1 cuts
    cases cuts
    have shorter := popped.shorter real
    obtain ⟨before, last, ending, run, ends, ended, rfl⟩ := tokens_eq_ok rest
    exact ⟨popped.token :: before, last, ending, .more pops real run, ends, ended, rfl⟩
termination_by cursor.rest.length

theorem word_of_pop_end {popped : Popped cursor} (pops : cursor.pop = .ok popped)
    (ended : popped.token.kind = .endOfInput) : popped.token.word = Word.ending := by
  rcases pop_eq_ok pops with ⟨_, token, _⟩ | ⟨c, text, lexeme, _, reads, token, _⟩
  · rw [token]
    rfl
  · rw [token] at ended
    exact absurd ended (Lexeme.within_read reads).1

/-- A run of pops up to the end gives the tokens of a query. -/
theorem Pops.tokens_of_end {last : Cursor} {tokens : List Token} {popped : Popped last}
    (run : cursor.Pops tokens last) (pops : last.pop = .ok popped)
    (ended : popped.token.kind = .endOfInput) : cursor.tokens = .ok (tokens ++ [popped.token]) := by
  induction run with
  | none =>
      rw [Cursor.tokens]
      exact bind_ok pops (dif_pos ended)
  | more pops' real _ ih =>
      rw [Cursor.tokens]
      exact bind_ok pops' ((dif_neg real).trans (bind_ok (ih pops ended) rfl))

/-- A query that cannot be cut begins with a run of pops after which nothing is popped. -/
theorem tokens_eq_error {cursor : Cursor} {stuck : Stuck} (fails : cursor.tokens = .error stuck) :
    ∃ before last, cursor.Pops before last ∧ last.pop = .error stuck := by
  rw [Cursor.tokens] at fails
  cases pops : cursor.pop with
  | error stuck' =>
      rw [pops] at fails
      cases fails
      exact ⟨[], cursor, .none, pops⟩
  | ok popped =>
      rw [pops] at fails
      simp only [bind, Except.bind] at fails
      split at fails
      · cases fails
      · next real =>
        have shorter := popped.shorter real
        cases rest : popped.next.tokens with
        | ok others =>
            rw [rest] at fails
            cases fails
        | error stuck' =>
            rw [rest] at fails
            cases fails
            obtain ⟨before, last, run, ends⟩ := tokens_eq_error rest
            exact ⟨popped.token :: before, last, .more pops real run, ends⟩
termination_by cursor.rest.length

end Cursor

/-! ## Tiles -/

/-- Nothing but blanks stands between two bytes of a text. -/
def Text.Gap (source : String) (start stop : Nat) : Prop :=
  ∃ blanks, Slice source start stop blanks ∧ ∀ c ∈ blanks, Text.isBlank c = true

/-- Tokens stand one after another from byte `start` up to byte `stop`, with gaps between them.
Just those that are a text in quotes carry a text. -/
inductive Tiles (source : String) : Nat → List Token → Nat → Prop
  | nil {start : Nat} : Tiles source start [] start
  | cons {start stop : Nat} {token : Token} {tokens : List Token}
      (gap : Text.Gap source start token.start)
      (lexeme : Slice source token.start token.stop token.lexeme.toList)
      (written : token.lexeme ≠ "") (real : token.kind ≠ .endOfInput)
      (quotes : ∀ value, token.literal? = some (.string value) ↔
        Quotes token.lexeme.toList value)
      (more : Tiles source token.stop tokens stop) : Tiles source start (token :: tokens) stop

namespace Cursor

variable {cursor last : Cursor} {tokens : List Token}

theorem gap_skipBlanks (cursor : Cursor) :
    Text.Gap cursor.source cursor.position cursor.skipBlanks.position :=
  ⟨_, cursor.passes_skipBlanks.slice, fun _ mem => List.mem_takeWhile_imp mem⟩

theorem position_pop {popped : Popped cursor} (pops : cursor.pop = .ok popped) :
    popped.next.position = popped.token.stop := by
  obtain ⟨start, passes⟩ := passes_pop pops
  rw [passes.position, Token.stop, start, Text.byteLength_toList]

theorem source_pop {popped : Popped cursor} (pops : cursor.pop = .ok popped) :
    popped.next.source = cursor.source :=
  (passes_pop pops).2.source

theorem slice_pop {popped : Popped cursor} (pops : cursor.pop = .ok popped) :
    Slice cursor.source popped.token.start popped.token.stop popped.token.lexeme.toList := by
  obtain ⟨start, passes⟩ := passes_pop pops
  rw [← position_pop pops, start]
  exact passes.slice

theorem carries_iff_quotes {popped : Popped cursor} {value : String}
    (pops : cursor.pop = .ok popped) :
    popped.token.literal? = some (.string value) ↔
      Quotes popped.token.lexeme.toList value := by
  rcases pop_eq_ok pops with ⟨_, token, _⟩ | ⟨c, text, lexeme, _, reads, token, _⟩
  · rw [token]
    simp [Quotes]
  · rw [token, String.toList_ofList]
    exact Lexeme.carries_iff_quotes reads

/-- The tokens of a run tile the text between the places where the run begins and ends. -/
theorem Pops.tiles (run : cursor.Pops tokens last) :
    last.source = cursor.source ∧ Tiles cursor.source cursor.position tokens last.position := by
  induction run with
  | none => exact ⟨rfl, .nil⟩
  | more pops real run ih =>
      obtain ⟨source, tiles⟩ := ih
      rw [source_pop pops] at source tiles
      rw [position_pop pops] at tiles
      refine ⟨source, .cons ?_ (slice_pop pops) ?_ real (fun _ => carries_iff_quotes pops) tiles⟩
      · rw [(passes_pop pops).1]
        exact gap_skipBlanks _
      · exact fun empty => real ((pop_endOfInput_iff pops).2.2 empty)

end Cursor

/-- A query that is cut into tokens is tiled by them up to the end, which is the last token and the
only empty one.  In a query that is not, the tokens before the error tile the text before it, and
the error starts at the first character behind them that is not blank. -/
theorem tokenize_tiles (source : String) :
    (∀ tokens, tokenize source = .ok tokens →
      ∃ before ending stop, tokens = before ++ [ending] ∧ Tiles source 0 before stop ∧
        Text.Gap source stop source.utf8ByteSize ∧
        ending = ⟨source.utf8ByteSize, .endOfInput, "", none⟩) ∧
    (∀ error, tokenize source = .error error →
      ∃ before last stuck, (Cursor.start source).Pops before last ∧ last.pop = .error stuck ∧
        stuck.error = error ∧ Tiles source 0 before last.position ∧
        Text.Gap source last.position error.start ∧
        ∃ c more, Slice source error.start source.utf8ByteSize (c :: more) ∧
          Text.isBlank c = false) := by
  constructor
  · intro tokens cuts
    obtain ⟨before, last, popped, run, pops, ended, rfl⟩ :=
      Cursor.tokens_eq_ok (mapError_eq_ok_iff.1 cuts)
    obtain ⟨same, tiles⟩ := run.tiles
    have same : last.source = source := same
    have left := (Cursor.pop_endOfInput_iff pops).1.1 ended
    have stop : last.skipBlanks.position = source.utf8ByteSize :=
      same ▸ Cursor.position_of_rest_nil left
    refine ⟨before, popped.token, last.position, rfl, tiles, ?_, ?_⟩
    · rw [← stop, ← same]
      exact last.gap_skipBlanks
    · rcases Cursor.pop_eq_ok pops with ⟨_, token, _⟩ | ⟨c, text, lexeme, other, _⟩
      · rw [token, stop]
      · cases left.symm.trans other
  · intro error fails
    obtain ⟨stuck, uncut, rfl⟩ := mapError_eq_error_iff.1 fails
    obtain ⟨before, last, run, stops⟩ := Cursor.tokens_eq_error uncut
    obtain ⟨same, tiles⟩ := run.tiles
    have same : last.source = source := same
    obtain ⟨c, text, fault, left, _, rfl⟩ := Cursor.pop_eq_error stops
    refine ⟨before, last, _, run, stops, rfl, tiles, ?_, c, text, ?_, ?_⟩
    · rw [← same]
      exact last.gap_skipBlanks
    · rw [← same, ← left]
      exact last.skipBlanks.slice_rest
    · exact Text.not_blank_of_trimStart ((Cursor.rest_skipBlanks last).symm.trans left)

end RecordQuery
