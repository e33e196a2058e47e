import RecordQuery.Proofs.Tokens.Tiling

/-!
# Tokens on demand

The parser never cuts a query into tokens before it starts.  It asks for one token at a time, and
each request reads the text from the place where the cursor is.  What it is told is what it would be
told by a cursor over the list of all tokens (`Cursor.answers_follow_tokens`).

A `Track` is such a list from some place on, together with what stands behind the tokens: the end,
which is found again and again, or the error that keeps the query from being cut.  A cursor follows
a track (`Cursor.Follows`) if its pops give the tokens of the track.  One request is answered alike
by both and leads to a cursor that follows what is left of the track (`Cursor.Follows.ask`), and a
run of requests is an induction on that.

A token that cannot be read ends the comparison once it is asked to be taken, since the cursor may
stop anywhere in the text then.  Looking at it leaves the cursor where it was.
-/

set_option autoImplicit false

namespace RecordQuery

/-! ## Requests -/

/-- What can be asked of a cursor: to show the next token, to take it, to take it if it is of a
kind, or to take it in any case but to fail if it is of another kind. -/
inductive Request where
  | peek
  | pop
  | tryPop (kind : TokenKind)
  | require (kind : TokenKind)
deriving DecidableEq

/-- The answer to a request: a token, no token because the next one is of another kind, or an
error. -/
abbrev Answer := Except CompileError (Option Token)

/-- The error of a token that is of another kind than the one that is required. -/
def Token.mismatch (source : String) (kind : TokenKind) (token : Token) : CompileError :=
  ⟨source, token.start, token.stop, .expectedKind kind token⟩

/-! ## A cursor in the text -/

namespace Cursor

/-- The answer of a step and the cursor behind it, which is behind the error if there is one. -/
def answered (step : Except Stuck (Option Token × Cursor)) : Answer × Cursor :=
  match step with
  | .ok (token?, next) => (.ok token?, next)
  | .error stuck => (.error stuck.error, stuck.cursor)

/-- The answer to a request and the cursor that the next request is made at. -/
def ask (cursor : Cursor) : Request → Answer × Cursor
  | .peek => answered <| (fun token => (some token, cursor)) <$> cursor.peek
  | .pop => answered <| (fun popped => (some popped.token, popped.next)) <$> cursor.pop
  | .tryPop kind => answered <| cursor.tryPop kind <&> fun
    | some taken => (some taken.1.token, taken.1.next)
    | none => (none, cursor)
  | .require kind =>
    answered <| (fun taken => (some taken.1.token, taken.1.next)) <$> cursor.require kind

/-- The answers to requests that are made one after another. -/
def answers (cursor : Cursor) : List Request → List Answer
  | [] => []
  | request :: requests => (cursor.ask request).1 :: (cursor.ask request).2.answers requests

end Cursor

namespace Cursor

variable {cursor : Cursor}

/-- What a request does where a token can be popped. -/
theorem ask_of_pop_ok {popped : Popped cursor} (pops : cursor.pop = .ok popped)
    (request : Request) :
    cursor.ask request =
      match request with
      | .peek => (.ok (some popped.token), cursor)
      | .pop => (.ok (some popped.token), popped.next)
      | .tryPop kind =>
        if popped.token.kind = kind then (.ok (some popped.token), popped.next)
        else (.ok none, cursor)
      | .require kind =>
        if popped.token.kind = kind then (.ok (some popped.token), popped.next)
        else (.error (popped.token.mismatch popped.next.source kind), popped.next) := by
  have looks : cursor.lookahead = .ok popped := lookahead_eq_ok_iff.2 pops
  cases request with
  | peek => rw [ask, peek, looks]; rfl
  | pop => rw [ask, pops]; rfl
  | tryPop kind =>
      rw [ask, tryPop, looks]
      by_cases same : popped.token.kind = kind
      · simp only [if_pos same, bind, Except.bind, dif_pos same]
        rfl
      · simp only [if_neg same, bind, Except.bind, dif_neg same]
        rfl
  | require kind =>
      rw [ask, require, pops]
      by_cases same : popped.token.kind = kind
      · simp only [if_pos same, bind, Except.bind, dif_pos same]
        rfl
      · simp only [if_neg same, bind, Except.bind, dif_neg same]
        rfl

/-- What a request does where no token can be popped: only the requests that take a token in any
case move the cursor. -/
theorem ask_of_pop_error {stuck : Stuck} (fails : cursor.pop = .error stuck) (request : Request) :
    cursor.ask request =
      match request with
      | .peek | .tryPop _ => (.error stuck.error, cursor)
      | .pop | .require _ => (.error stuck.error, stuck.cursor) := by
  have looks : cursor.lookahead = .error { stuck with cursor } := by
    rw [lookahead, fails]
    rfl
  cases request with
  | peek => rw [ask, peek, looks]; rfl
  | pop => rw [ask, fails]; rfl
  | tryPop kind => rw [ask, tryPop, looks]; rfl
  | require kind => rw [ask, require, fails]; rfl

/-- Looking at the next token leaves the cursor where it was. -/
theorem peek_keeps (cursor : Cursor) : (cursor.ask .peek).2 = cursor := by
  cases pops : cursor.pop with
  | ok popped => rw [ask_of_pop_ok pops]
  | error stuck => rw [ask_of_pop_error pops]

/-- A token that is not taken leaves the cursor where it was, also if it is none. -/
theorem tryPop_keeps {kind : TokenKind}
    (untaken : ∀ token, (cursor.ask (.tryPop kind)).1 ≠ .ok (some token)) :
    (cursor.ask (.tryPop kind)).2 = cursor := by
  cases pops : cursor.pop with
  | error stuck => rw [ask_of_pop_error pops]
  | ok popped =>
      rw [ask_of_pop_ok pops] at untaken ⊢
      by_cases same : popped.token.kind = kind
      · simp only [if_pos same] at untaken
        exact absurd rfl (untaken popped.token)
      · simp only [if_neg same]

end Cursor

/-! ## A cursor in a list of tokens -/

/-- The tokens that are left of a query, and what stands behind them: the end, or the error of what
is no token. -/
structure Track where
  left : List Token
  last : Except CompileError Token

namespace Track

/-- All that is left of a query: the tokens with the end, or the error. -/
def tokens (track : Track) : Except CompileError (List Token) :=
  track.last.map fun ending => track.left ++ [ending]

/-- The next token.  Where there is none, what stands behind is next, however often it was. -/
def next (track : Track) : Except CompileError Token :=
  match track.left with
  | [] => track.last
  | token :: _ => .ok token

/-- The track behind the next token. -/
def forward (track : Track) : Track := { track with left := track.left.tail }

/-- The answer to a request and the track that is left, if the next request still has an answer. -/
def ask (source : String) (track : Track) (request : Request) : Answer × Option Track :=
  match track.next, request with
  | .ok token, .peek => (.ok (some token), some track)
  | .ok token, .pop => (.ok (some token), some track.forward)
  | .ok token, .tryPop kind =>
    if token.kind = kind then (.ok (some token), some track.forward) else (.ok none, some track)
  | .ok token, .require kind =>
    if token.kind = kind then (.ok (some token), some track.forward)
    else (.error (token.mismatch source kind), some track.forward)
  | .error error, .peek | .error error, .tryPop _ => (.error error, some track)
  | .error error, .pop | .error error, .require _ => (.error error, none)

/-- The answers to requests that are made one after another, up to the one that takes what is no
token. -/
def answers (source : String) : Option Track → List Request → List Answer
  | none, _ => []
  | some _, [] => []
  | some track, request :: requests =>
    (track.ask source request).1 :: answers source (track.ask source request).2 requests

end Track

/-- Where the end stands behind the tokens, every request has an answer. -/
theorem Track.length_answers {source : String} {track : Track} {ending : Token}
    (last : track.last = .ok ending) (requests : List Request) :
    (Track.answers source (some track) requests).length = requests.length := by
  induction requests generalizing track with
  | nil => rfl
  | cons request requests ih =>
      have goesOn : ∃ after, (track.ask source request).2 = some after ∧
          after.last = .ok ending := by
        obtain ⟨token, comes⟩ : ∃ token, track.next = .ok token := by
          rw [Track.next]
          split
          · exact ⟨ending, last⟩
          · exact ⟨_, rfl⟩
        cases request with
        | peek | pop =>
            simp only [Track.ask, comes]
            exact ⟨_, rfl, last⟩
        | tryPop | require =>
            simp only [Track.ask, comes]
            split <;> exact ⟨_, rfl, last⟩
      obtain ⟨after, left, last⟩ := goesOn
      rw [Track.answers, left, List.length_cons, ih last, List.length_cons]

theorem Cursor.length_answers (cursor : Cursor) (requests : List Request) :
    (cursor.answers requests).length = requests.length := by
  induction requests generalizing cursor with
  | nil => rfl
  | cons request requests ih => rw [answers, List.length_cons, ih, List.length_cons]

/-! ## A cursor follows a track -/

namespace Cursor

/-- Behind the tokens of a track the cursor finds what stands there: the end, or what is no
token. -/
inductive Ends (cursor : Cursor) : Except CompileError Token → Prop
  | ok {popped : Popped cursor} (pops : cursor.pop = .ok popped)
      (ended : popped.token.kind = .endOfInput) : Ends cursor (.ok popped.token)
  | error {stuck : Stuck} (fails : cursor.pop = .error stuck) : Ends cursor (.error stuck.error)

/-- What is popped from a cursor are the tokens of a track, and then what stands behind them. -/
structure Follows (source : String) (track : Track) (cursor : Cursor) : Prop where
  source_eq : cursor.source = source
  pops : ∃ last, cursor.Pops track.left last ∧ last.Ends track.last

variable {source : String} {track : Track} {cursor : Cursor}

/-- The end is found again where it was found. -/
theorem Ends.again {popped : Popped cursor} (pops : cursor.pop = .ok popped)
    (ended : popped.token.kind = .endOfInput) : popped.next.Ends (.ok popped.token) := by
  have here := source_pop pops
  rcases pop_eq_ok pops with ⟨left, token, next⟩ | ⟨_, _, _, _, reads, token, _⟩
  · have left' : popped.next.skipBlanks.rest = [] := by
      rw [rest_skipBlanks, next, left]
      rfl
    have same : popped.next.skipBlanks.position = cursor.skipBlanks.position := by
      rw [position_of_rest_nil left, position_of_rest_nil left']
      exact congrArg String.utf8ByteSize here
    obtain ⟨again, pops', _, _⟩ : ∃ again, popped.next.pop = .ok again ∧
        again.token.word = Word.ending ∧ again.next.rest = [] :=
      pop_of_read? (by rw [Word.read?, ← rest_skipBlanks, left'])
    rcases pop_eq_ok pops' with ⟨_, token', _⟩ | ⟨_, _, _, other, _⟩
    · have tokens : again.token = popped.token := by rw [token', token, same]
      rw [← tokens]
      exact .ok pops' (by rw [tokens, ended])
    · cases left'.symm.trans other
  · rw [token] at ended
    exact absurd ended (Lexeme.within_read reads).1

namespace Follows

/-- The next token of the track is popped, and the cursor follows what is left. -/
theorem pop_ok (follows : cursor.Follows source track) {token : Token}
    (comes : track.next = .ok token) :
    ∃ popped : Popped cursor, cursor.pop = .ok popped ∧ popped.token = token ∧
      popped.next.Follows source track.forward := by
  obtain ⟨here, last, run, ends⟩ := follows
  obtain ⟨left, behind⟩ := track
  cases run with
  | none =>
      obtain rfl : behind = .ok token := comes
      cases ends with
      | ok pops ended =>
          exact ⟨_, pops, rfl, (source_pop pops).trans here, _, .none, .again pops ended⟩
  | more pops real run =>
      cases comes
      exact ⟨_, pops, rfl, (source_pop pops).trans here, last, run, ends⟩

/-- Where no token comes next, popping fails with the error of the track. -/
theorem pop_error (follows : cursor.Follows source track) {error : CompileError}
    (fails : track.next = .error error) :
    ∃ stuck : Stuck, cursor.pop = .error stuck ∧ stuck.error = error := by
  obtain ⟨_, last, run, ends⟩ := follows
  obtain ⟨left, behind⟩ := track
  cases run with
  | none =>
      obtain rfl : behind = .error error := fails
      cases ends with
      | error fails => exact ⟨_, fails, rfl⟩
  | more => cases fails

end Follows

/-- The answer to a request is that of the track, and the cursor after it follows the track after
it. -/
theorem Follows.ask (follows : cursor.Follows source track) (request : Request) :
    (cursor.ask request).1 = (track.ask source request).1 ∧
      ∀ after, (track.ask source request).2 = some after →
        (cursor.ask request).2.Follows source after := by
  cases comes : track.next with
  | ok token =>
      obtain ⟨popped, pops, rfl, forward⟩ := follows.pop_ok comes
      have stays : ∀ after, some track = some after → cursor.Follows source after :=
        fun _ same => Option.some.inj same ▸ follows
      have moves : ∀ after, some track.forward = some after → popped.next.Follows source after :=
        fun _ same => Option.some.inj same ▸ forward
      rw [ask_of_pop_ok pops]
      cases request with
      | peek =>
          simp only [Track.ask, comes, true_and]
          exact stays
      | pop =>
          simp only [Track.ask, comes, true_and]
          exact moves
      | tryPop kind =>
          simp only [Track.ask, comes]
          split
          · exact ⟨rfl, moves⟩
          · exact ⟨rfl, stays⟩
      | require kind =>
          simp only [Track.ask, comes, forward.source_eq]
          split
          · exact ⟨rfl, moves⟩
          · exact ⟨rfl, moves⟩
  | error error =>
      obtain ⟨stuck, fails, rfl⟩ := follows.pop_error comes
      have stays : ∀ after, some track = some after → cursor.Follows source after :=
        fun _ same => Option.some.inj same ▸ follows
      rw [ask_of_pop_error fails]
      cases request with
      | peek | tryPop =>
          simp only [Track.ask, comes, true_and]
          exact stays
      | pop | require => simp only [Track.ask, comes, reduceCtorEq, false_implies, implies_true,
          and_self]

/-- The answers to a run of requests are those of the track, as long as these have answers. -/
theorem Follows.answers (follows : cursor.Follows source track) (requests : List Request) :
    Track.answers source (some track) requests <+: cursor.answers requests := by
  induction requests generalizing cursor track with
  | nil => exact List.nil_prefix
  | cons request requests ih =>
      obtain ⟨same, goOn⟩ := follows.ask request
      rw [Track.answers, Cursor.answers, same, List.cons_prefix_cons]
      refine ⟨rfl, ?_⟩
      cases after : (track.ask source request).2 with
      | none =>
          rw [Track.answers]
          exact List.nil_prefix
      | some after => exact ih (goOn _ after)

/-- The start of a query follows the track of all its tokens. -/
theorem exists_follows (source : String) :
    ∃ track : Track, track.tokens = tokenize source ∧ (start source).Follows source track := by
  cases cuts : (start source).tokens with
  | ok tokens =>
      obtain ⟨before, last, popped, run, pops, ended, rfl⟩ := tokens_eq_ok cuts
      refine ⟨⟨before, .ok popped.token⟩, ?_, rfl, last, run, .ok pops ended⟩
      rw [tokenize, cuts]
      rfl
  | error stuck =>
      obtain ⟨before, last, run, fails⟩ := tokens_eq_error cuts
      refine ⟨⟨before, .error stuck.error⟩, ?_, rfl, last, run, .error fails⟩
      rw [tokenize, cuts]
      rfl

/-- The requests that are made of one cursor are answered as a cursor over the list of all tokens
answers them, up to the first one that takes what is no token; in a query that can be cut into
tokens these are all.  Looking at a token, and trying to take one that is of another kind or is no
token, leave the cursor where it was. -/
theorem answers_follow_tokens (source : String) :
    (∃ track : Track, track.tokens = tokenize source ∧
      (∀ requests, Track.answers source (some track) requests <+:
        (start source).answers requests) ∧
      ∀ tokens, tokenize source = .ok tokens → ∀ requests,
        Track.answers source (some track) requests = (start source).answers requests) ∧
    (∀ cursor : Cursor, (cursor.ask .peek).2 = cursor) ∧
    ∀ (cursor : Cursor) (kind : TokenKind),
      (∀ token, (cursor.ask (.tryPop kind)).1 ≠ .ok (some token)) →
        (cursor.ask (.tryPop kind)).2 = cursor := by
  refine ⟨?_, peek_keeps, fun _ _ => tryPop_keeps⟩
  obtain ⟨track, whole, follows⟩ := exists_follows source
  refine ⟨track, whole, follows.answers, fun tokens cuts requests => ?_⟩
  obtain ⟨ending, last, _⟩ := map_eq_ok_iff.1 (whole.trans cuts)
  refine (follows.answers requests).eq_of_length ?_
  rw [Track.length_answers last, length_answers]

end Cursor

end RecordQuery
