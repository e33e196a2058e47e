import Mathlib
import RecordQuery.Query.Parser

/-!
# Words of a query

What a cursor reads depends on the text that is left and on nothing else: the position goes
into tokens and errors only.  A word is a token without its place, and `Word.read?` finds the
first word of a text together with the text behind it.

Every way in which the parser looks at the next token is related to the first word, in both
directions.  A successful reading tells what the first word is (`read?_of_pop`,
`read?_of_take`, `read?_of_tryTake`), and a first word of the right kind makes the reading
succeed (`pop_of_read?`, `take_of_read?`, `tryTake_of_read?`).
-/

set_option autoImplicit false

namespace RecordQuery

/-! ## Steps that succeed -/

section Steps

variable {ε ε' α β : Type}

/-- Two steps succeed together when each of them does. -/
theorem bind_eq_ok_iff {x : Except ε α} {f : α → Except ε β} {b : β} :
    (x >>= f) = .ok b ↔ ∃ a, x = .ok a ∧ f a = .ok b := by
  cases x with
  | error e => simp [bind, Except.bind]
  | ok a => simp [bind, Except.bind]

theorem bind_ok {x : Except ε α} {f : α → Except ε β} {a : α} {b : β} (first : x = .ok a)
    (second : f a = .ok b) : (x >>= f) = .ok b :=
  bind_eq_ok_iff.2 ⟨a, first, second⟩

theorem map_eq_ok_iff {x : Except ε α} {f : α → β} {b : β} :
    f <$> x = .ok b ↔ ∃ a, x = .ok a ∧ f a = b := by
  cases x with
  | error e => simp [Functor.map, Except.map]
  | ok a => simp [Functor.map, Except.map]

theorem mapError_eq_ok_iff {x : Except ε α} {f : ε → ε'} {a : α} :
    x.mapError f = .ok a ↔ x = .ok a := by
  cases x with
  | error e => simp [Except.mapError]
  | ok a => simp [Except.mapError]

end Steps

/-! ## Words -/

/-- A token without its place. -/
structure Word where
  kind : TokenKind
  lexeme : String
  literal? : Option Literal

namespace Word

/-- What stands at the end of a text. -/
def ending : Word := ⟨.endOfInput, "", none⟩

/-- The first word of a text behind its blanks, and the text behind the word. -/
def read? (text : List Char) : Option (Word × List Char) :=
  match Text.trimStart text with
  | [] => some (ending, [])
  | c :: more =>
    match Lexeme.read c more with
    | .ok lexeme =>
      some (⟨lexeme.kind, String.ofList ((c :: more).take (lexeme.more + 1)), lexeme.literal?⟩,
        (c :: more).drop (lexeme.more + 1))
    | .error _ => none

/-- An expression read with a floor goes no further before this word: it begins no question,
and no operator that binds tighter than the floor. -/
def Stops (floor : Int) (word : Word) : Prop :=
  word.kind ≠ .quantifier ∧
    ∀ mark entry, word.kind = .mark mark → mark.binary? = some entry → entry.precedence ≤ floor

theorem read?_nil : read? [] = some (ending, []) := rfl

theorem stops_ending (floor : Int) : ending.Stops floor := by
  refine ⟨nofun, ?_⟩
  rintro mark entry ⟨⟩

/-- Nothing but blanks is left. -/
def AtEnd (text : List Char) : Prop :=
  ∃ word after, read? text = some (word, after) ∧ word.kind = .endOfInput

theorem atEnd_nil : AtEnd [] := ⟨ending, [], read?_nil, rfl⟩

end Word

/-- The word that a token is. -/
def Token.word (token : Token) : Word := ⟨token.kind, token.lexeme, token.literal?⟩

/-! ## What a cursor reads -/

theorem drop_length_takeWhile (p : Char → Bool) (text : List Char) :
    text.drop (text.takeWhile p).length = text.dropWhile p := by
  have split := List.takeWhile_append_dropWhile (p := p) (l := text)
  calc text.drop (text.takeWhile p).length
      = (text.takeWhile p ++ text.dropWhile p).drop (text.takeWhile p).length := by rw [split]
    _ = text.dropWhile p := List.drop_left

namespace Cursor

theorem rest_skipBlanks (cursor : Cursor) :
    cursor.skipBlanks.rest = Text.trimStart cursor.rest :=
  drop_length_takeWhile Text.isBlank cursor.rest

variable {cursor : Cursor} {word : Word} {rest : List Char} {kind : TokenKind}

/-- What is popped is the first word of the text that is left. -/
theorem read?_of_pop {popped : Popped cursor} (pops : cursor.pop = .ok popped) :
    Word.read? cursor.rest = some (popped.token.word, popped.next.rest) := by
  unfold pop at pops
  simp only at pops
  split at pops
  · next left =>
    cases pops
    simp [Word.read?, ← rest_skipBlanks, left, Token.word, Word.ending]
  · next c text left =>
    split at pops
    · next lexeme read =>
      cases pops
      simp [Word.read?, ← rest_skipBlanks, left, read, Token.word]
    · cases pops

/-- Where there is a first word, popping does not fail. -/
theorem pop_of_read? (reads : Word.read? cursor.rest = some (word, rest)) :
    ∃ popped, cursor.pop = .ok popped ∧ popped.token.word = word ∧ popped.next.rest = rest := by
  cases result : cursor.pop with
  | ok popped =>
    rw [read?_of_pop result] at reads
    cases reads
    exact ⟨popped, rfl, rfl, rfl⟩
  | error stuck =>
    exfalso
    unfold pop at result
    simp only at result
    split at result
    · cases result
    · next c text left =>
      split at result
      · cases result
      · next fault read => simp [Word.read?, ← rest_skipBlanks, left, read] at reads

theorem lookahead_eq_ok_iff {popped : Popped cursor} :
    cursor.lookahead = .ok popped ↔ cursor.pop = .ok popped := mapError_eq_ok_iff

theorem settle_eq_ok_iff {α : Type} {token : Token} {result : Except Cause α} {value : α} :
    cursor.settle token result = .ok value ↔ result = .ok value := mapError_eq_ok_iff

theorem read?_of_peek {token : Token} (peeks : cursor.peek = .ok token) :
    ∃ after, Word.read? cursor.rest = some (token.word, after) := by
  obtain ⟨popped, looks, rfl⟩ := map_eq_ok_iff.1 peeks
  exact ⟨_, read?_of_pop (lookahead_eq_ok_iff.1 looks)⟩

theorem peek_of_read? (reads : Word.read? cursor.rest = some (word, rest)) :
    ∃ token, cursor.peek = .ok token ∧ token.word = word := by
  obtain ⟨popped, pops, rfl, rfl⟩ := pop_of_read? reads
  exact ⟨popped.token, map_eq_ok_iff.2 ⟨popped, lookahead_eq_ok_iff.2 pops, rfl⟩, rfl⟩

theorem read?_of_require {required : { popped : Popped cursor // popped.token.kind = kind }}
    (requires : cursor.require kind = .ok required) :
    Word.read? cursor.rest = some (required.1.token.word, required.1.next.rest) := by
  obtain ⟨found, pops, kept⟩ := bind_eq_ok_iff.1 requires
  split at kept
  · cases kept
    exact read?_of_pop pops
  · cases kept

theorem require_of_read? (reads : Word.read? cursor.rest = some (word, rest))
    (same : word.kind = kind) :
    ∃ required, cursor.require kind = .ok required ∧ required.1.token.word = word ∧
      required.1.next.rest = rest := by
  obtain ⟨popped, pops, rfl, rfl⟩ := pop_of_read? reads
  have same : popped.token.kind = kind := same
  refine ⟨⟨popped, same⟩, bind_ok pops ?_, rfl, rfl⟩
  simp only [dif_pos same]
  rfl

variable {real : kind ≠ .endOfInput}

theorem read?_of_take {taken : Later cursor Token} (takes : cursor.take kind real = .ok taken) :
    Word.read? cursor.rest = some (taken.value.word, taken.next.rest) ∧
      taken.value.kind = kind := by
  obtain ⟨required, requires, rfl⟩ := map_eq_ok_iff.1 takes
  exact ⟨read?_of_require requires, required.2⟩

theorem take_of_read? (reads : Word.read? cursor.rest = some (word, rest))
    (same : word.kind = kind) :
    ∃ taken, cursor.take kind real = .ok taken ∧ taken.value.word = word ∧
      taken.next.rest = rest := by
  obtain ⟨required, requires, rfl, rfl⟩ := require_of_read? reads same
  exact ⟨_, map_eq_ok_iff.2 ⟨required, requires, rfl⟩, rfl, rfl⟩

theorem read?_of_tryTake {taken : Later cursor Token}
    (tries : cursor.tryTake kind real = .ok (some taken)) :
    Word.read? cursor.rest = some (taken.value.word, taken.next.rest) ∧
      taken.value.kind = kind := by
  obtain ⟨tried, tries, same⟩ := map_eq_ok_iff.1 tries
  obtain ⟨found, looks, kept⟩ := bind_eq_ok_iff.1 tries
  split at kept
  · cases kept
    cases same
    exact ⟨read?_of_pop (lookahead_eq_ok_iff.1 looks), by assumption⟩
  · cases kept
    cases same

theorem tryTake_of_read? (reads : Word.read? cursor.rest = some (word, rest))
    (same : word.kind = kind) :
    ∃ taken, cursor.tryTake kind real = .ok (some taken) ∧ taken.value.word = word ∧
      taken.next.rest = rest := by
  obtain ⟨popped, pops, rfl, rfl⟩ := pop_of_read? reads
  have same : popped.token.kind = kind := same
  refine ⟨Popped.later real ⟨popped, same⟩, ?_, rfl, rfl⟩
  simp [tryTake, tryPop, lookahead, pops, Except.mapError, bind, Except.bind, same, pure,
    Except.pure, Functor.map, Except.map]

theorem read?_of_tryTake_none (tries : cursor.tryTake kind real = .ok none) :
    ∃ word rest, Word.read? cursor.rest = some (word, rest) ∧ word.kind ≠ kind := by
  obtain ⟨tried, tries, same⟩ := map_eq_ok_iff.1 tries
  obtain ⟨found, looks, kept⟩ := bind_eq_ok_iff.1 tries
  split at kept
  · cases kept
    cases same
  · next other => exact ⟨_, _, read?_of_pop (lookahead_eq_ok_iff.1 looks), other⟩

theorem tryTake_none_of_read? (reads : Word.read? cursor.rest = some (word, rest))
    (other : word.kind ≠ kind) : cursor.tryTake kind real = .ok none := by
  obtain ⟨popped, pops, rfl, rfl⟩ := pop_of_read? reads
  have differs : popped.token.kind ≠ kind := other
  simp [tryTake, tryPop, lookahead, pops, Except.mapError, bind, Except.bind, differs, pure,
    Except.pure, Functor.map, Except.map]

end Cursor

namespace Parser

variable {cursor : Cursor} {word : Word} {rest : List Char}

theorem read?_of_firstToken {taken : Cursor.Later cursor Token}
    (first : firstToken cursor = .ok taken) :
    Word.read? cursor.rest = some (taken.value.word, taken.next.rest) := by
  obtain ⟨⟨token, next, _, _⟩, pops, kept⟩ := bind_eq_ok_iff.1 first
  simp only at kept
  split at kept
  · cases kept
  · cases kept
    exact Cursor.read?_of_pop pops

theorem firstToken_of_read? (reads : Word.read? cursor.rest = some (word, rest))
    (real : word.kind ≠ .endOfInput) :
    ∃ taken, firstToken cursor = .ok taken ∧ taken.value.word = word ∧ taken.next.rest = rest := by
  obtain ⟨⟨token, next, no_longer, shorter⟩, pops, rfl, rfl⟩ := Cursor.pop_of_read? reads
  have inside : token.kind ≠ .endOfInput := real
  refine ⟨⟨token, next, shorter inside⟩, ?_, rfl, rfl⟩
  rw [firstToken]
  refine bind_ok pops ?_
  simp only [dif_neg inside]
  rfl

end Parser

end RecordQuery
