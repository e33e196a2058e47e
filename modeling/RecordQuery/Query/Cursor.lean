import RecordQuery.Query.Lexeme

/-!
# Cursors

A cursor is a place in a query: what was passed and what is left.  Tokens are read from it
one after another, with blanks between them skipped.  Reading never changes a cursor but
gives the one behind the token, and with it the proof that less is left, which is why the
recursion of the parser ends.

Looking at the next token (`peek`) and taking it only if it is of the right kind
(`tryPop`) leave the cursor where it was if they fail; taking it in any case (`pop`,
`require`) may move it even then.
-/

set_option autoImplicit false

namespace RecordQuery

/-- A place in a query, by its byte and by the characters from there on. -/
structure Cursor where
  source : String
  position : Nat
  rest : List Char
  splits : ∃ passed, source.toList = passed ++ rest ∧ position = Text.byteLength passed

/-- An error and the place where reading would go on after it. -/
structure Stuck where
  error : CompileError
  cursor : Cursor

namespace Cursor

/-- The start of a query. -/
def start (source : String) : Cursor := ⟨source, 0, source.toList, [], rfl, rfl⟩

/-- The place so many characters on. -/
def advance (cursor : Cursor) (count : Nat) : Cursor where
  source := cursor.source
  position := cursor.position + Text.byteLength (cursor.rest.take count)
  rest := cursor.rest.drop count
  splits := by
    obtain ⟨passed, split, position⟩ := cursor.splits
    refine ⟨passed ++ cursor.rest.take count, ?_, ?_⟩
    · rw [List.append_assoc, List.take_append_drop, split]
    · rw [Text.byteLength_append, position]

/-- The place after the blanks. -/
def skipBlanks (cursor : Cursor) : Cursor :=
  cursor.advance (cursor.rest.takeWhile Text.isBlank).length

@[simp] theorem rest_advance (cursor : Cursor) (count : Nat) :
    (cursor.advance count).rest = cursor.rest.drop count := rfl

theorem length_skipBlanks_le (cursor : Cursor) :
    cursor.skipBlanks.rest.length ≤ cursor.rest.length := by
  simp only [skipBlanks, rest_advance, List.length_drop]
  omega

/-- A token and the cursor behind it.  Less is left there, unless the token is the end. -/
structure Popped (cursor : Cursor) where
  token : Token
  next : Cursor
  no_longer : next.rest.length ≤ cursor.rest.length
  shorter : token.kind ≠ .endOfInput → next.rest.length < cursor.rest.length

/-- Reads the next token. -/
def pop (cursor : Cursor) : Except Stuck (Popped cursor) :=
  let here := cursor.skipBlanks
  match left : here.rest with
  | [] =>
    .ok {
      token := ⟨here.position, .endOfInput, "", none⟩
      next := here
      no_longer := cursor.length_skipBlanks_le
      shorter := fun other => absurd rfl other }
  | c :: text =>
    match Lexeme.read c text with
    | .ok lexeme =>
      have shorter : (here.advance (lexeme.more + 1)).rest.length < cursor.rest.length := by
        have blanks : here.rest.length ≤ cursor.rest.length := cursor.length_skipBlanks_le
        simp only [rest_advance, List.length_drop]
        have length : here.rest.length = text.length + 1 := by rw [left, List.length_cons]
        omega
      .ok {
        token :=
          ⟨here.position, lexeme.kind, String.ofList ((c :: text).take (lexeme.more + 1)),
            lexeme.literal?⟩
        next := here.advance (lexeme.more + 1)
        no_longer := Nat.le_of_lt shorter
        shorter := fun _ => shorter }
    | .error fault =>
      .error {
        error :=
          ⟨cursor.source, here.position, (here.advance fault.extent).position, fault.cause⟩
        cursor := here.advance fault.passed }

/-- The next token with the cursor behind it; where there is none the cursor stays. -/
def lookahead (cursor : Cursor) : Except Stuck (Popped cursor) :=
  cursor.pop.mapError fun stuck => { stuck with cursor }

/-- The next token, which is not taken. -/
def peek (cursor : Cursor) : Except Stuck Token := (·.token) <$> cursor.lookahead

/-- Takes the next token if it is of a kind. -/
def tryPop (kind : TokenKind) (cursor : Cursor) :
    Except Stuck (Option { popped : Popped cursor // popped.token.kind = kind }) := do
  let popped ← cursor.lookahead
  return if same : popped.token.kind = kind then some ⟨popped, same⟩ else none

/-- An error that a token is to blame for. -/
def blame (cursor : Cursor) (token : Token) (cause : Cause) : Stuck :=
  ⟨⟨cursor.source, token.start, token.stop, cause⟩, cursor⟩

/-- Takes the next token, which has to be of a kind. -/
def require (kind : TokenKind) (cursor : Cursor) :
    Except Stuck { popped : Popped cursor // popped.token.kind = kind } := do
  let popped ← cursor.pop
  if same : popped.token.kind = kind then return ⟨popped, same⟩
  else throw (popped.next.blame popped.token (.expectedKind kind popped.token))

/-- All tokens from a cursor on, with the end. -/
def tokens (cursor : Cursor) : Except Stuck (List Token) := do
  let popped ← cursor.pop
  if _ended : popped.token.kind = .endOfInput then return [popped.token]
  else return popped.token :: (← popped.next.tokens)
termination_by cursor.rest.length
decreasing_by exact popped.shorter _ended

/-! ## Progress -/

/-- A result and a cursor where less is left than before. -/
structure Later (cursor : Cursor) (α : Type) where
  value : α
  next : Cursor
  shorter : next.rest.length < cursor.rest.length

/-- A result and a cursor where no more is left than before. -/
structure NotEarlier (cursor : Cursor) (α : Type) where
  value : α
  next : Cursor
  no_longer : next.rest.length ≤ cursor.rest.length

/-- A token of a kind other than the end, taken from a cursor. -/
def Popped.later {cursor : Cursor} {kind : TokenKind} (real : kind ≠ .endOfInput)
    (taken : { popped : Popped cursor // popped.token.kind = kind }) : Later cursor Token :=
  ⟨taken.1.token, taken.1.next, taken.1.shorter (by rw [taken.2]; exact real)⟩

/-- Takes the next token, which has to be of a kind other than the end. -/
def take (kind : TokenKind) (cursor : Cursor) (real : kind ≠ .endOfInput := by decide) :
    Except Stuck (Later cursor Token) :=
  Popped.later real <$> cursor.require kind

/-- Takes the next token if it is of a kind other than the end. -/
def tryTake (kind : TokenKind) (cursor : Cursor) (real : kind ≠ .endOfInput := by decide) :
    Except Stuck (Option (Later cursor Token)) :=
  (Option.map (Popped.later real)) <$> cursor.tryPop kind

/-- A result of work on what was read up to a cursor; a token is to blame if it failed. -/
def settle {α : Type} (cursor : Cursor) (token : Token) (result : Except Cause α) :
    Except Stuck α :=
  result.mapError (cursor.blame token)

end Cursor

/-- The tokens of a query, with the end. -/
def tokenize (source : String) : Except CompileError (List Token) :=
  (Cursor.start source).tokens.mapError (·.error)

end RecordQuery
