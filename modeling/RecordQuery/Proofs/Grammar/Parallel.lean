import RecordQuery.Proofs.Tokens.Tiling
import RecordQuery.Proofs.Typing.Likeness

/-!
# Two runs of the parser

A query is read twice, over two types that are not told apart.  The two runs go the same way: they
pop the same tokens, and they build similar trees or stop at the same token with errors of the same
kind (`parse_together`).  The names that the query asks for are those of its identifiers, so the
types have to agree on these only.

The readers move through the text by popping tokens, and each of them either goes on behind a token
or blames one.  So it is shown on the way that whatever is blamed is a slice of the query.
-/

set_option autoImplicit false

namespace RecordQuery

open Text (Slice)

variable {ρ : Type}

/-! ## Errors -/

/-- The error is one of a query and blames a slice of it. -/
structure CompileError.Within (source : String) (error : CompileError) : Prop where
  source_eq : error.source = source
  slice : ∃ piece, Slice source error.start error.stop piece

/-- The errors blame the same slice of a query and are of the same kind. -/
structure CompileError.Alike (source : String) (error error' : CompileError) : Prop where
  within : error.Within source
  source_eq : error'.source = error.source
  start_eq : error'.start = error.start
  stop_eq : error'.stop = error.stop
  causes : error.cause.Alike error'.cause

/-- The errors are alike, and they leave the same cursor behind. -/
structure Stuck.Alike (source : String) (stuck stuck' : Stuck) : Prop where
  errors : stuck.error.Alike source stuck'.error
  cursor_eq : stuck'.cursor = stuck.cursor
  source_eq : stuck.cursor.source = source

/-! ## Tokens -/

/-- A token that was popped in a query in which identifiers are among the names. -/
structure Token.Known (source : String) (names : String → Prop) (token : Token) : Prop where
  slice : Slice source token.start token.stop token.lexeme.toList
  named : token.kind = .identifier → names token.lexeme

/-- The same known token on both sides. -/
structure Token.Same (source : String) (names : String → Prop) (token token' : Token) : Prop where
  eq : token = token'
  known : token.Known source names

/-- The same known token on both sides, of a kind. -/
structure Token.SameOf (source : String) (names : String → Prop) (kind : TokenKind)
    (token token' : Token) : Prop extends Token.Same source names token token' where
  kind_eq : token.kind = kind

namespace Cursor

/-- A place in a query from which on identifiers are among the names. -/
structure Asks (source : String) (names : String → Prop) (cursor : Cursor) : Prop where
  source_eq : cursor.source = source
  named : ∀ {tokens : List Token} {last : Cursor} {popped : Popped last},
    cursor.Pops tokens last → last.pop = .ok popped → popped.token.kind = .identifier →
    names popped.token.lexeme

/-- The same token is popped on both sides, and the query can be read on if it is not the end. -/
structure Popped.Same (source : String) (names : String → Prop) {cursor : Cursor}
    (popped popped' : Popped cursor) : Prop where
  eq : popped = popped'
  known : popped.token.Known source names
  source_eq : popped.next.source = source
  asks : popped.token.kind ≠ .endOfInput → popped.next.Asks source names

/-- Related results with the same cursor behind them. -/
inductive Later.Same (source : String) (names : String → Prop) {cursor : Cursor} {α α' : Type}
    (results : α → α' → Prop) : Later cursor α → Later cursor α' → Prop
  | intro {value : α} {value' : α'} {next : Cursor}
      {shorter : next.rest.length < cursor.rest.length} (asks : next.Asks source names)
      (values : results value value') : Same source names results ⟨value, next, shorter⟩
        ⟨value', next, shorter⟩

/-- Related results with the same cursor behind them, which may be where it was. -/
inductive NotEarlier.Same (source : String) (names : String → Prop) {cursor : Cursor}
    {α α' : Type} (results : α → α' → Prop) : NotEarlier cursor α → NotEarlier cursor α' → Prop
  | intro {value : α} {value' : α'} {next : Cursor}
      {no_longer : next.rest.length ≤ cursor.rest.length} (asks : next.Asks source names)
      (values : results value value') : Same source names results ⟨value, next, no_longer⟩
        ⟨value', next, no_longer⟩

variable {source : String} {names : String → Prop} {cursor : Cursor}

theorem alike_blame {token : Token} {cause cause' : Cause} (here : cursor.source = source)
    (known : token.Known source names) (causes : cause.Alike cause') :
    Stuck.Alike source (cursor.blame token cause) (cursor.blame token cause') where
  errors := ⟨⟨here, _, known.slice⟩, rfl, rfl, rfl, causes⟩
  cursor_eq := rfl
  source_eq := here

theorem settle_together {α α' : Type} {results : α → α' → Prop} {token : Token}
    {result : Except Cause α} {result' : Except Cause α'} (here : cursor.source = source)
    (known : token.Known source names) (together : Together Cause.Alike results result result') :
    Together (Stuck.Alike source) results (cursor.settle token result)
      (cursor.settle token result') :=
  together.mapError fun _ _ causes => alike_blame here known causes

/-- An error of the lexer blames what follows the blanks. -/
theorem within_pop_error {stuck : Stuck} (here : cursor.source = source)
    (fails : cursor.pop = .error stuck) :
    stuck.error.Within source ∧ stuck.cursor.source = source := by
  obtain ⟨c, text, fault, _, _, rfl⟩ := pop_eq_error fails
  subst here
  exact ⟨⟨rfl, _, (cursor.skipBlanks.passes_advance fault.extent).slice⟩, rfl⟩

namespace Asks

/-- All names are among all names. -/
theorem any (here : cursor.source = source) : cursor.Asks source fun _ => True :=
  ⟨here, fun _ _ _ => trivial⟩

theorem popped (asks : cursor.Asks source names) {popped : Popped cursor}
    (pops : cursor.pop = .ok popped) : Popped.Same source names popped popped where
  eq := rfl
  known := ⟨asks.source_eq ▸ slice_pop pops, asks.named .none pops⟩
  source_eq := (source_pop pops).trans asks.source_eq
  asks real := ⟨(source_pop pops).trans asks.source_eq, fun run => asks.named (.more pops real run)⟩

theorem pop (asks : cursor.Asks source names) :
    Together (Stuck.Alike source) (Popped.Same source names) cursor.pop cursor.pop := by
  refine .refl _ (fun _ pops => asks.popped pops) fun stuck fails => ?_
  obtain ⟨within, here⟩ := within_pop_error asks.source_eq fails
  exact ⟨⟨within, rfl, rfl, rfl, rfl⟩, rfl, here⟩

theorem lookahead (asks : cursor.Asks source names) :
    Together (Stuck.Alike source) (Popped.Same source names) cursor.lookahead cursor.lookahead :=
  asks.pop.mapError fun _ _ stuck => ⟨stuck.errors, rfl, asks.source_eq⟩

theorem peek (asks : cursor.Asks source names) :
    Together (Stuck.Alike source) (Token.Same source names) cursor.peek cursor.peek :=
  asks.lookahead.map fun _ _ popped => ⟨congrArg Popped.token popped.eq, popped.known⟩

variable {kind : TokenKind}

theorem later (real : kind ≠ .endOfInput)
    {taken : { popped : Popped cursor // popped.token.kind = kind }}
    (popped : Popped.Same source names taken.1 taken.1) :
    Later.Same source names (Token.SameOf source names kind) (Popped.later real taken)
      (Popped.later real taken) :=
  .intro (popped.asks (by rw [taken.2]; exact real)) ⟨⟨rfl, popped.known⟩, taken.2⟩

theorem tryTake (asks : cursor.Asks source names) (real : kind ≠ .endOfInput) :
    Together (Stuck.Alike source)
      (Option.Rel (Later.Same source names (Token.SameOf source names kind)))
      (cursor.tryTake kind real) (cursor.tryTake kind real) := by
  have tries : Together (Stuck.Alike source)
      (Option.Rel fun taken taken' => taken = taken' ∧ Popped.Same source names taken.1 taken.1)
      (cursor.tryPop kind) (cursor.tryPop kind) := by
    refine asks.lookahead.bind ?_
    rintro popped _ ⟨rfl, known, here, asks⟩
    refine .ok ?_
    split
    · exact .some ⟨rfl, rfl, known, here, asks⟩
    · exact .none
  refine tries.map ?_
  rintro _ _ (⟨rfl, popped⟩ | _)
  · exact .some (later real popped)
  · exact .none

theorem require (asks : cursor.Asks source names) (kind : TokenKind) :
    Together (Stuck.Alike source)
      (fun taken taken' => taken = taken' ∧ Popped.Same source names taken.1 taken.1)
      (cursor.require kind) (cursor.require kind) := by
  refine asks.pop.bind ?_
  rintro popped _ ⟨rfl, known, here, asks⟩
  split
  · exact .ok ⟨rfl, rfl, known, here, asks⟩
  · exact .error (alike_blame here known rfl)

theorem take (asks : cursor.Asks source names) (real : kind ≠ .endOfInput) :
    Together (Stuck.Alike source) (Later.Same source names (Token.SameOf source names kind))
      (cursor.take kind real) (cursor.take kind real) := by
  refine (asks.require kind).map ?_
  rintro taken _ ⟨rfl, popped⟩
  exact later real popped

theorem firstToken (asks : cursor.Asks source names) :
    Together (Stuck.Alike source) (Later.Same source names (Token.Same source names))
      (Parser.firstToken cursor) (Parser.firstToken cursor) := by
  refine asks.pop.bind ?_
  rintro ⟨token, next, no_longer, shorter⟩ _ ⟨rfl, known, here, asks⟩
  simp only
  split
  · exact .error (alike_blame here known rfl)
  · next real => exact .ok (.intro (asks real) ⟨rfl, known⟩)

end Asks

end Cursor

/-! ## Readers -/

namespace Parser

open Cursor

variable {source : String} {names : String → Prop} {alike : ValueType ρ → ValueType ρ → Prop}
  {now : DateTime}

theorem suffixes_together (indistinct : Indistinct names alike) {cursor : Cursor}
    {base base' : Expr ρ} (asks : cursor.Asks source names) (bases : base.Similar alike base') :
    Together (Stuck.Alike source) (NotEarlier.Same source names (Expr.Similar alike))
      (suffixes base cursor) (suffixes base' cursor) := by
  rw [suffixes, suffixes]
  refine (asks.tryTake (by decide)).bind ?_
  rintro _ _ (@⟨_, _, @⟨_, _, next, shorter, asks, _⟩⟩ | _)
  · refine (asks.take (by decide)).bind ?_
    rintro _ _ @⟨name, _, next, shorter', asks, ⟨⟨rfl, known⟩, isName⟩⟩
    refine (settle_together asks.source_eq known
      (bases.ofMember indistinct (known.named isName))).bind ?_
    intro base base' bases
    refine (suffixes_together indistinct asks bases).bind ?_
    rintro _ _ @⟨whole, whole', next, _, asks, wholes⟩
    exact .ok (.intro asks wholes)
  · exact .ok (.intro asks bases)
termination_by cursor.rest.length

mutual

theorem expression_together (indistinct : Indistinct names alike) {cursor : Cursor}
    {scope scope' : Scope ρ} {floor : Int} (asks : cursor.Asks source names)
    (scopes : scope.Similar alike scope') :
    Together (Stuck.Alike source) (Later.Same source names (Expr.Similar alike))
      (expression now scope floor cursor) (expression now scope' floor cursor) := by
  rw [expression, expression]
  refine (primary_together indistinct asks scopes).bind ?_
  rintro _ _ @⟨first, first', next, shorter, asks, firsts⟩
  refine (suffixes_together indistinct asks firsts).bind ?_
  rintro _ _ @⟨left, left', next, no_longer, asks, lefts⟩
  refine (continuation_together indistinct asks scopes lefts).bind ?_
  rintro _ _ @⟨whole, whole', next, _, asks, wholes⟩
  exact .ok (.intro asks wholes)
termination_by 3 * cursor.rest.length + 1
decreasing_by all_goals omega

theorem primary_together (indistinct : Indistinct names alike) {cursor : Cursor}
    {scope scope' : Scope ρ} (asks : cursor.Asks source names)
    (scopes : scope.Similar alike scope') :
    Together (Stuck.Alike source) (Later.Same source names (Expr.Similar alike))
      (primary now scope cursor) (primary now scope' cursor) := by
  rw [primary, primary]
  refine (asks.firstToken).bind ?_
  rintro _ _ @⟨token, _, next, shorter, asks, ⟨rfl, known⟩⟩
  have here := asks.source_eq
  simp only
  split
  · next isName =>
    refine asks.peek.bind ?_
    rintro peeked _ ⟨rfl, _⟩
    split
    · refine (arguments_together indistinct asks scopes).bind ?_
      rintro _ _ @⟨values, values', next, _, asks, values⟩
      refine (settle_together asks.source_eq known
        (Expr.Similar.ofCall indistinct values _)).bind ?_
      exact fun _ _ calls => .ok (.intro asks calls)
    · refine (settle_together here known
        (scopes.input.ofMember indistinct (known.named isName))).bind ?_
      exact fun _ _ members => .ok (.intro asks members)
  · exact .ok (.intro asks .literal)
  · refine (settle_together here known (scopes.inputOf token.lexeme)).bind ?_
    exact fun _ _ inputs => .ok (.intro asks inputs)
  · split
    · exact .ok (.intro asks .literal)
    · exact .error (alike_blame here known rfl)
  · refine (expression_together indistinct asks scopes).bind ?_
    rintro _ _ @⟨inner, inner', next, _, asks, inners⟩
    refine (asks.take (by decide)).bind ?_
    rintro _ _ @⟨_, _, next, _, asks, _⟩
    exact .ok (.intro asks inners)
  · split
    · refine (expression_together indistinct asks scopes).bind ?_
      rintro _ _ @⟨operand, operand', next, _, asks, operands⟩
      refine (settle_together asks.source_eq known (operands.ofUnary indistinct _ _)).bind ?_
      exact fun _ _ wholes => .ok (.intro asks wholes)
    · exact .error (alike_blame here known rfl)
  · exact .error (alike_blame here known rfl)
termination_by 3 * cursor.rest.length
decreasing_by all_goals omega

theorem arguments_together (indistinct : Indistinct names alike) {cursor : Cursor}
    {scope scope' : Scope ρ} (asks : cursor.Asks source names)
    (scopes : scope.Similar alike scope') :
    Together (Stuck.Alike source) (Later.Same source names (List.Forall₂ (Expr.Similar alike)))
      (arguments now scope cursor) (arguments now scope' cursor) := by
  rw [arguments, arguments]
  refine (asks.take (by decide)).bind ?_
  rintro _ _ @⟨_, _, next, shorter, asks, _⟩
  refine (asks.tryTake (by decide)).bind ?_
  rintro _ _ (@⟨_, _, @⟨_, _, next, _, asks, _⟩⟩ | _)
  · exact .ok (.intro asks .nil)
  · refine (listed_together indistinct asks scopes).bind ?_
    rintro _ _ @⟨values, values', next, _, asks, values⟩
    refine (asks.take (by decide)).bind ?_
    rintro _ _ @⟨_, _, next, _, asks, _⟩
    exact .ok (.intro asks values)
termination_by 3 * cursor.rest.length
decreasing_by omega

theorem listed_together (indistinct : Indistinct names alike) {cursor : Cursor}
    {scope scope' : Scope ρ} (asks : cursor.Asks source names)
    (scopes : scope.Similar alike scope') :
    Together (Stuck.Alike source) (Later.Same source names (List.Forall₂ (Expr.Similar alike)))
      (listed now scope cursor) (listed now scope' cursor) := by
  rw [listed, listed]
  refine (expression_together indistinct asks scopes).bind ?_
  rintro _ _ @⟨value, value', next, shorter, asks, first⟩
  refine (asks.tryTake (by decide)).bind ?_
  rintro _ _ (@⟨_, _, @⟨_, _, next, shorter', asks, _⟩⟩ | _)
  · refine (listed_together indistinct asks scopes).bind ?_
    rintro _ _ @⟨values, values', next, _, asks, others⟩
    exact .ok (.intro asks (.cons first others))
  · exact .ok (.intro asks (.cons first .nil))
termination_by 3 * cursor.rest.length + 2
decreasing_by all_goals omega

theorem continuation_together (indistinct : Indistinct names alike) {cursor : Cursor}
    {scope scope' : Scope ρ} {floor : Int} {left left' : Expr ρ}
    (asks : cursor.Asks source names) (scopes : scope.Similar alike scope')
    (lefts : left.Similar alike left') :
    Together (Stuck.Alike source) (NotEarlier.Same source names (Expr.Similar alike))
      (continuation now scope floor left cursor) (continuation now scope' floor left' cursor) := by
  rw [continuation, continuation]
  refine asks.lookahead.bind ?_
  rintro ⟨token, next, no_longer, shorter⟩ _ ⟨rfl, known, _, asksNext⟩
  simp only at known asksNext ⊢
  split
  · next isKeyword =>
    have asks := asksNext (by rw [isKeyword]; nofun)
    have shorter := shorter (by rw [isKeyword]; nofun)
    refine (question_together indistinct asks scopes lefts known).bind ?_
    rintro _ _ @⟨answered, answered', next, shorter', asks, lefts⟩
    refine (continuation_together indistinct asks scopes lefts).bind ?_
    rintro _ _ @⟨whole, whole', next, _, asks, wholes⟩
    exact .ok (.intro asks wholes)
  · next mark isMark =>
    have asksNext := asksNext (by rw [isMark]; nofun)
    have shorter := shorter (by rw [isMark]; nofun)
    split
    · next entry joins =>
      split
      · exact .ok (.intro asks lefts)
      · refine (expression_together indistinct asksNext scopes).bind ?_
        rintro _ _ @⟨right, right', next, shorter', asks, rights⟩
        refine (settle_together asks.source_eq known
          (lefts.ofBinary indistinct rights entry)).bind ?_
        intro joined joined' lefts
        refine (continuation_together indistinct asks scopes lefts).bind ?_
        rintro _ _ @⟨whole, whole', next, _, asks, wholes⟩
        exact .ok (.intro asks wholes)
    · exact .ok (.intro asks lefts)
  · exact .ok (.intro asks lefts)
termination_by 3 * cursor.rest.length
decreasing_by all_goals omega

theorem question_together (indistinct : Indistinct names alike) {cursor : Cursor}
    {scope scope' : Scope ρ} {base base' : Expr ρ} {keyword : Token}
    (asks : cursor.Asks source names) (scopes : scope.Similar alike scope')
    (bases : base.Similar alike base') (known : keyword.Known source names) :
    Together (Stuck.Alike source) (Later.Same source names (Expr.Similar alike))
      (question now scope base keyword cursor) (question now scope' base' keyword cursor) := by
  rw [question, question, scopes.depth_eq]
  have elements := indistinct.element (bases.types indistinct)
  generalize base.type.element? = element? at elements
  generalize base'.type.element? = element?' at elements
  rcases elements with @⟨element, element', elements⟩ | _
  · refine (asks.take (by decide)).bind ?_
    rintro _ _ @⟨_, _, next, shorter, asks, _⟩
    refine (expression_together indistinct asks (scopes.enter elements)).bind ?_
    rintro _ _ @⟨predicate, predicate', next, _, asks, predicates⟩
    simp only [indistinct.isBoolean (predicates.types indistinct)]
    split
    · exact .error (alike_blame asks.source_eq known rfl)
    · refine (asks.take (by decide)).bind ?_
      rintro _ _ @⟨_, _, next, _, asks, _⟩
      exact .ok (.intro asks (.nested bases predicates))
  · exact .error (alike_blame asks.source_eq known rfl)
termination_by 3 * cursor.rest.length
decreasing_by omega

end

theorem query_together (indistinct : Indistinct names alike) {cursor : Cursor}
    {scope scope' : Scope ρ} (asks : cursor.Asks source names)
    (scopes : scope.Similar alike scope') :
    Together (Stuck.Alike source)
      (fun read read' => read.next.source = source ∧ read.value.Similar alike read'.value)
      (query now scope cursor) (query now scope' cursor) := by
  rw [query, query]
  refine (expression_together indistinct asks scopes).bind ?_
  rintro _ _ @⟨whole, whole', next, _, asksNext, wholes⟩
  refine (asksNext.require .endOfInput).bind ?_
  rintro ⟨⟨ending, next, _, _⟩, _⟩ _ ⟨rfl, _, known, here, _⟩
  simp only [indistinct.isBoolean (wholes.types indistinct)]
  split
  · obtain ⟨before, front⟩ := known.slice.exists_before
    exact .error ⟨⟨⟨asks.source_eq, before, front⟩, rfl, rfl, rfl, rfl⟩, rfl, here⟩
  · exact .ok ⟨here, wholes⟩

end Parser

/-- A query that is read over two types that are not told apart gives similar trees, or errors of
the same kind that blame the same slice of it. -/
theorem parse_together {names : String → Prop} {alike : ValueType ρ → ValueType ρ → Prop}
    {now : DateTime} {type type' : ValueType ρ} {source : String}
    (indistinct : Indistinct names alike) (types : alike type type')
    (asks : (Cursor.start source).Asks source names) :
    Together (CompileError.Alike source) (Expr.Similar alike) (parse now type source)
      (parse now type' source) := by
  have parses : ∀ type : ValueType ρ, parse now type source =
      ((Parser.query now ⟨type, []⟩ (Cursor.start source)).map (·.value)).mapError
        (·.error) := by
    intro type
    simp only [parse, Parser.nextQuery, Parser.step, Parser.start, Parser.scope]
    cases Parser.query now ⟨type, []⟩ (Cursor.start source) <;> rfl
  rw [parses, parses]
  refine .mapError (.map (Parser.query_together indistinct asks ⟨types, .nil⟩) ?_) ?_
  · exact fun _ _ wholes => wholes.2
  · exact fun _ _ stuck => stuck.errors

end RecordQuery
