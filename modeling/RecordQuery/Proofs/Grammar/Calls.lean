import RecordQuery.Proofs.Literals.Folding
import RecordQuery.Proofs.Tokens.Kinds

/-!
# What the parser never comes to

The parser has an answer for three things that do not happen.  A literal may carry no value, the
word of a question may be unknown, and a function may give what is no time: the first and the last
one end with errors of their own, and in place of an unknown word the parser takes `any`.  Each of
them would be a disagreement of two tables that were written apart.  None is ever met
(`fallbacks_unreached`).

The six readers call each other.  `Parser.ReaderCall.Makes` lists the calls that one call makes, as
the readers make them, so that there is less text left in each (`Makes.room_lt`).  A call whose
calls end with none of the two errors ends with none of them (`ReaderCall.honest_of_makes`), so no
call does.  For the word of a question this is not true of all calls, since a call could be made
with any token.  But calls are made only with tokens that were popped, and those keep what their
kind promises.
-/

set_option autoImplicit false

namespace RecordQuery

open Cursor (Later NotEarlier Popped)

variable {ρ : Type}

/-! ## Honest results -/

/-- A result that is no error of a fallback, where an error has a cause. -/
def Honest {ε α : Type} (causeOf : ε → Cause) (result : Except ε α) : Prop :=
  ∀ fault, result = .error fault → (causeOf fault).isFallback = false

/-- The cause of the error that a reader ends with. -/
def Stuck.cause (stuck : Stuck) : Cause := stuck.error.cause

namespace Honest

variable {ε ε' α β : Type} {causeOf : ε → Cause}

theorem ok {value : α} : Honest causeOf (.ok value) := fun _ => nofun

theorem error {fault : ε} (honest : (causeOf fault).isFallback = false) :
    Honest causeOf (.error fault : Except ε α) := by
  rintro _ ⟨⟩
  exact honest

theorem bind {x : Except ε α} {f : α → Except ε β} (first : Honest causeOf x)
    (second : ∀ a, x = .ok a → Honest causeOf (f a)) : Honest causeOf (x >>= f) := by
  cases x with
  | error fault => exact error (first fault rfl)
  | ok a => exact second a rfl

theorem map {x : Except ε α} (honest : Honest causeOf x) (f : α → β) :
    Honest causeOf (f <$> x) := by
  cases x with
  | error fault => exact error (honest fault rfl)
  | ok a => exact ok

theorem mapError {x : Except ε α} {f : ε → ε'} {causeOf' : ε' → Cause} (honest : Honest causeOf x)
    (same : ∀ fault, causeOf' (f fault) = causeOf fault) : Honest causeOf' (x.mapError f) := by
  cases x with
  | error fault => exact error (same fault ▸ honest fault rfl)
  | ok a => exact ok

end Honest

/-! ## Tokens -/

namespace Cursor

variable {cursor : Cursor} {kind : TokenKind}

theorem honest_pop : Honest Stuck.cause cursor.pop := by
  intro stuck fails
  obtain ⟨c, text, fault, _, reads, rfl⟩ := pop_eq_error fails
  exact Lexeme.isFallback_read reads

theorem honest_lookahead : Honest Stuck.cause cursor.lookahead :=
  honest_pop.mapError fun _ => rfl

theorem honest_peek : Honest Stuck.cause cursor.peek := honest_lookahead.map _

theorem honest_require : Honest Stuck.cause (cursor.require kind) := by
  refine honest_pop.bind fun popped _ => ?_
  split
  · exact .ok
  · exact .error rfl

theorem honest_take (real : kind ≠ .endOfInput) : Honest Stuck.cause (cursor.take kind real) :=
  honest_require.map _

theorem honest_tryTake (real : kind ≠ .endOfInput) :
    Honest Stuck.cause (cursor.tryTake kind real) :=
  (honest_lookahead.bind fun _ _ => .ok).map _

theorem honest_settle {α : Type} {token : Token} {result : Except Cause α}
    (honest : Honest id result) : Honest Stuck.cause (cursor.settle token result) :=
  honest.mapError fun _ => rfl

theorem honest_firstToken : Honest Stuck.cause (Parser.firstToken cursor) := by
  refine honest_pop.bind fun popped _ => ?_
  simp only
  split
  · exact .error rfl
  · exact .ok

theorem promised_of_lookahead {popped : Popped cursor} (sees : cursor.lookahead = .ok popped) :
    popped.token.Promised :=
  promised_of_pop (mapError_eq_ok_iff.1 sees)

theorem promised_of_firstToken {token : Later cursor Token}
    (reads : Parser.firstToken cursor = .ok token) : token.value.Promised := by
  obtain ⟨popped, pops, reads⟩ := bind_eq_ok_iff.1 reads
  simp only at reads
  split at reads
  · cases reads
  · cases reads
    exact promised_of_pop pops

end Cursor

/-! ## Expressions -/

namespace Expr

theorem honest_ofMember (base : Expr ρ) (name : String) : Honest id (base.ofMember name) := by
  refine Honest.map ?_ _
  unfold ValueType.resolveMember
  split
  · exact .error rfl
  · exact .ok
  · exact .error rfl

theorem honest_ofUnary (op : UnaryOp) (symbol : String) (operand : Expr ρ) :
    Honest id (ofUnary op symbol operand) := by
  unfold ofUnary
  split
  · exact .ok
  · exact .error rfl

theorem honest_ofBinary (entry : BinaryEntry) (left right : Expr ρ) :
    Honest id (ofBinary entry left right) := by
  unfold ofBinary
  simp only
  split
  · split
    · exact .ok
    · exact .error rfl
  · next op _ =>
    split
    · refine Honest.map ?_ _
      unfold readRegex
      split
      · split
        · exact .ok
        · exact .error rfl
      · exact .ok
    · exact .error rfl

/-- What a function gives is a time, so a call is never refused for that. -/
theorem honest_fold (function : Function) (literals : List Literal) :
    Honest id (fold function literals : Except Cause (Expr ρ)) := by
  rcases fold_cases (ρ := ρ) function literals with ⟨_, folds, _⟩ | ⟨_, fails, _⟩
  · rw [folds]
    exact .ok
  · rw [fails]
    exact .error rfl

theorem honest_ofCall (name : String) (arguments : List (Expr ρ)) :
    Honest id (ofCall name arguments) := by
  unfold ofCall
  split
  · exact .error rfl
  split
  · exact .error rfl
  split
  · exact honest_fold _ _
  · exact .ok

end Expr

theorem Scope.honest_inputOf (scope : Scope ρ) (lexeme : String) :
    Honest id (scope.inputOf lexeme) := by
  unfold inputOf
  simp only
  split
  · exact .ok
  · exact .error rfl

namespace Parser

open Cursor

theorem honest_suffixes {base : Expr ρ} {cursor : Cursor} :
    Honest Stuck.cause (suffixes base cursor) := by
  rw [suffixes]
  refine (honest_tryTake _).bind fun dot _ => ?_
  split
  · exact .ok
  · next next shorter =>
    refine (honest_take _).bind ?_
    rintro ⟨name, next', shorter'⟩ _
    refine (honest_settle (Expr.honest_ofMember _ _)).bind fun member _ => ?_
    exact honest_suffixes.bind fun _ _ => .ok
termination_by cursor.rest.length

/-! ## Calls -/

/-- A call of one of the six readers. -/
inductive ReaderCall (ρ : Type) where
  | expression (scope : Scope ρ) (floor : Int) (cursor : Cursor)
  | primary (scope : Scope ρ) (cursor : Cursor)
  | arguments (scope : Scope ρ) (cursor : Cursor)
  | listed (scope : Scope ρ) (cursor : Cursor)
  | continuation (scope : Scope ρ) (floor : Int) (left : Expr ρ) (cursor : Cursor)
  | question (scope : Scope ρ) (source : Expr ρ) (keyword : Token) (cursor : Cursor)

namespace ReaderCall

/-- A call makes another one. -/
inductive Makes (now : DateTime) : ReaderCall ρ → ReaderCall ρ → Prop
  | primary {scope : Scope ρ} {floor : Int} {cursor : Cursor} :
      Makes now (.expression scope floor cursor) (.primary scope cursor)
  | continuation {scope : Scope ρ} {floor : Int} {cursor : Cursor}
      {first : Later cursor (Expr ρ)} {left : NotEarlier first.next (Expr ρ)}
      (reads : Parser.primary now scope cursor = .ok first)
      (suffixed : suffixes first.value first.next = .ok left) :
      Makes now (.expression scope floor cursor) (.continuation scope floor left.value left.next)
  | arguments {scope : Scope ρ} {cursor : Cursor} {name : Later cursor Token} {opening : Token}
      (reads : firstToken cursor = .ok name) (isName : name.value.kind = .identifier)
      (peeks : name.next.peek = .ok opening) (opens : opening.kind = .mark .parenthesisOpen) :
      Makes now (.primary scope cursor) (.arguments scope name.next)
  | inner {scope : Scope ρ} {cursor : Cursor} {opening : Later cursor Token}
      (reads : firstToken cursor = .ok opening)
      (opens : opening.value.kind = .mark .parenthesisOpen) :
      Makes now (.primary scope cursor) (.expression scope lowestPrecedence opening.next)
  | operand {scope : Scope ρ} {cursor : Cursor} {sign : Later cursor Token} {mark : Mark}
      {op : UnaryOp} (reads : firstToken cursor = .ok sign) (isMark : sign.value.kind = .mark mark)
      (isUnary : mark.unary? = some op) :
      Makes now (.primary scope cursor) (.expression scope lowestPrecedence sign.next)
  | listed {scope : Scope ρ} {cursor : Cursor} {opening : Later cursor Token}
      (opens : cursor.take (.mark .parenthesisOpen) = .ok opening)
      (some_ : opening.next.tryTake (.mark .parenthesisClose) = .ok none) :
      Makes now (.arguments scope cursor) (.listed scope opening.next)
  | first {scope : Scope ρ} {cursor : Cursor} :
      Makes now (.listed scope cursor) (.expression scope lowestPrecedence cursor)
  | others {scope : Scope ρ} {cursor : Cursor} {value : Later cursor (Expr ρ)}
      {comma : Later value.next Token}
      (reads : Parser.expression now scope lowestPrecedence cursor = .ok value)
      (more : value.next.tryTake (.mark .comma) = .ok (some comma)) :
      Makes now (.listed scope cursor) (.listed scope comma.next)
  | question {scope : Scope ρ} {floor : Int} {left : Expr ρ} {cursor : Cursor}
      {keyword : Popped cursor} (sees : cursor.lookahead = .ok keyword)
      (asks : keyword.token.kind = .quantifier) :
      Makes now (.continuation scope floor left cursor)
        (.question scope left keyword.token keyword.next)
  | answered {scope : Scope ρ} {floor : Int} {left : Expr ρ} {cursor : Cursor}
      {keyword : Popped cursor} {answered : Later keyword.next (Expr ρ)}
      (sees : cursor.lookahead = .ok keyword) (asks : keyword.token.kind = .quantifier)
      (answers : Parser.question now scope left keyword.token keyword.next = .ok answered) :
      Makes now (.continuation scope floor left cursor)
        (.continuation scope floor answered.value answered.next)
  | right {scope : Scope ρ} {floor : Int} {left : Expr ρ} {cursor : Cursor}
      {sign : Popped cursor} {mark : Mark} {entry : BinaryEntry}
      (sees : cursor.lookahead = .ok sign) (isMark : sign.token.kind = .mark mark)
      (isBinary : mark.binary? = some entry) (binds : ¬ entry.precedence ≤ floor) :
      Makes now (.continuation scope floor left cursor)
        (.expression scope entry.precedence sign.next)
  | joined {scope : Scope ρ} {floor : Int} {left whole : Expr ρ} {cursor : Cursor}
      {sign : Popped cursor} {mark : Mark} {entry : BinaryEntry} {right : Later sign.next (Expr ρ)}
      (sees : cursor.lookahead = .ok sign) (isMark : sign.token.kind = .mark mark)
      (isBinary : mark.binary? = some entry) (binds : ¬ entry.precedence ≤ floor)
      (reads : Parser.expression now scope entry.precedence sign.next = .ok right)
      (builds : Expr.ofBinary entry left right.value = .ok whole) :
      Makes now (.continuation scope floor left cursor)
        (.continuation scope floor whole right.next)
  | predicate {scope : Scope ρ} {source : Expr ρ} {keyword : Token} {cursor : Cursor}
      {element : ValueType ρ} {opening : Later cursor Token}
      (isSequence : source.type.element? = some element)
      (opens : cursor.take (.mark .blockOpen) = .ok opening) :
      Makes now (.question scope source keyword cursor)
        (.expression (scope.enter element) lowestPrecedence opening.next)

/-- The text that is left for a call, and in which order calls with the same text are made. -/
def room : ReaderCall ρ → Nat
  | .expression _ _ cursor => 3 * cursor.rest.length + 1
  | .listed _ cursor => 3 * cursor.rest.length + 2
  | .primary _ cursor | .arguments _ cursor | .continuation _ _ _ cursor | .question _ _ _ cursor =>
    3 * cursor.rest.length

variable {now : DateTime} {call made : ReaderCall ρ}

/-- Less text is left in a call that is made, or it comes later in the order. -/
theorem Makes.room_lt (makes : Makes now call made) : made.room < call.room := by
  cases makes with
  | primary | first =>
      simp only [room]
      omega
  | @continuation _ _ _ first left =>
      have shorter := first.shorter
      have no_longer := left.no_longer
      simp only [room]
      omega
  | @arguments _ _ token | @inner _ _ token | @operand _ _ token | @listed _ _ token
  | @predicate _ _ _ _ _ token =>
      have shorter := token.shorter
      simp only [room]
      omega
  | @others _ _ value comma =>
      have shorter := value.shorter
      have shorter' := comma.shorter
      simp only [room]
      omega
  | @question _ _ _ _ keyword _ asks =>
      have shorter := keyword.shorter (by simp [asks])
      simp only [room]
      omega
  | @answered _ _ _ _ keyword answered _ asks =>
      have shorter := keyword.shorter (by simp [asks])
      have shorter' := answered.shorter
      simp only [room]
      omega
  | @right _ _ _ _ sign _ _ _ isMark =>
      have shorter := sign.shorter (by simp [isMark])
      simp only [room]
      omega
  | @joined _ _ _ _ _ sign _ _ right _ isMark =>
      have shorter := sign.shorter (by simp [isMark])
      have shorter' := right.shorter
      simp only [room]
      omega

/-- The result of a call is no error of a fallback. -/
def IsHonest (now : DateTime) : ReaderCall ρ → Prop
  | .expression scope floor cursor =>
    Honest Stuck.cause (Parser.expression now scope floor cursor)
  | .primary scope cursor => Honest Stuck.cause (Parser.primary now scope cursor)
  | .arguments scope cursor => Honest Stuck.cause (Parser.arguments now scope cursor)
  | .listed scope cursor => Honest Stuck.cause (Parser.listed now scope cursor)
  | .continuation scope floor left cursor =>
    Honest Stuck.cause (Parser.continuation now scope floor left cursor)
  | .question scope source keyword cursor =>
    Honest Stuck.cause (Parser.question now scope source keyword cursor)

/-- A call whose calls are honest is honest: what it does on its own is no fallback. -/
theorem honest_of_makes (inner : ∀ made, Makes now call made → made.IsHonest now) :
    call.IsHonest now := by
  cases call with
  | expression scope floor cursor =>
      rw [IsHonest, Parser.expression]
      have first : Honest _ _ := inner _ .primary
      refine first.bind fun value reads => ?_
      refine honest_suffixes.bind fun left suffixed => ?_
      have rest : Honest _ _ := inner _ (.continuation reads suffixed)
      exact rest.bind fun _ _ => .ok
  | primary scope cursor =>
      rw [IsHonest, Parser.primary]
      refine honest_firstToken.bind fun token reads => ?_
      simp only
      split
      · next isName =>
        refine honest_peek.bind fun opening peeks => ?_
        split
        · next opens =>
          have arguments : Honest _ _ := inner _ (.arguments reads isName peeks opens)
          refine arguments.bind fun values _ => ?_
          exact (honest_settle (Expr.honest_ofCall _ _)).bind fun _ _ => .ok
        · exact (honest_settle (Expr.honest_ofMember _ _)).bind fun _ _ => .ok
      · exact .ok
      · exact (honest_settle (scope.honest_inputOf _)).bind fun _ _ => .ok
      · next isLiteral =>
        obtain ⟨value, carries⟩ := (promised_of_firstToken reads).literal isLiteral
        rw [carries]
        exact .ok
      · next opens =>
        have whole : Honest _ _ := inner _ (.inner reads opens)
        refine whole.bind fun _ _ => ?_
        exact (honest_take _).bind fun _ _ => .ok
      · next mark isMark =>
        split
        · next op isUnary =>
          have operand : Honest _ _ := inner _ (.operand reads isMark isUnary)
          refine operand.bind fun _ _ => ?_
          exact (honest_settle (Expr.honest_ofUnary _ _ _)).bind fun _ _ => .ok
        · exact .error rfl
      · exact .error rfl
  | arguments scope cursor =>
      rw [IsHonest, Parser.arguments]
      refine (honest_take _).bind fun opening opens => ?_
      refine (honest_tryTake _).bind fun closing closes => ?_
      split
      · exact .ok
      · have values : Honest _ _ := inner _ (.listed opens closes)
        refine values.bind fun _ _ => ?_
        exact (honest_take _).bind fun _ _ => .ok
  | listed scope cursor =>
      rw [IsHonest, Parser.listed]
      have first : Honest _ _ := inner _ .first
      refine first.bind fun value reads => ?_
      refine (honest_tryTake _).bind fun comma more => ?_
      split
      · have others : Honest _ _ := inner _ (.others reads more)
        exact others.bind fun _ _ => .ok
      · exact .ok
  | continuation scope floor left cursor =>
      rw [IsHonest, Parser.continuation]
      refine honest_lookahead.bind fun popped sees => ?_
      simp only
      split
      · next asks =>
        have question : Honest _ _ := inner _ (.question sees asks)
        refine question.bind fun answered answers => ?_
        have rest : Honest _ _ := inner _ (.answered sees asks answers)
        exact rest.bind fun _ _ => .ok
      · next mark isMark =>
        split
        · next entry isBinary =>
          split
          · exact .ok
          · next binds =>
            have right : Honest _ _ := inner _ (.right sees isMark isBinary binds)
            refine right.bind fun value reads => ?_
            refine (honest_settle (Expr.honest_ofBinary _ _ _)).bind fun whole builds => ?_
            have rest : Honest _ _ := inner _
              (.joined sees isMark isBinary binds reads (mapError_eq_ok_iff.1 builds))
            exact rest.bind fun _ _ => .ok
        · exact .ok
      · exact .ok
  | question scope source keyword cursor =>
      rw [IsHonest, Parser.question]
      cases isSequence : source.type.element? with
      | none => exact .error rfl
      | some element =>
          refine (honest_take _).bind fun opening opens => ?_
          have predicate : Honest _ _ := inner _ (.predicate isSequence opens)
          refine predicate.bind fun value _ => ?_
          simp only
          split
          · exact .error rfl
          · exact (honest_take _).bind fun _ _ => .ok

/-- No call ends with an error of a fallback. -/
theorem honest (now : DateTime) (call : ReaderCall ρ) : call.IsHonest now := by
  refine honest_of_makes fun made makes => ?_
  have less := makes.room_lt
  exact honest now made
termination_by call.room

/-! ## Calls that are reached -/

/-- A call is made on the way through another one. -/
inductive Reaches (now : DateTime) (root : ReaderCall ρ) : ReaderCall ρ → Prop
  | start : Reaches now root root
  | call {call made : ReaderCall ρ} (met : Reaches now root call) (makes : Makes now call made) :
      Reaches now root made

/-- The call that the reading of a query begins with. -/
def ofQuery (type : ValueType ρ) (source : String) : ReaderCall ρ :=
  .expression ⟨type, []⟩ lowestPrecedence (Cursor.start source)

/-- The word of a question is that of a quantifier, and the question is built with this one. -/
def IsKnown (now : DateTime) : ReaderCall ρ → Prop
  | .question scope source keyword cursor =>
    ∃ quantifier, Quantifier.ofWord? keyword.lexeme = some quantifier ∧
      keyword.lexeme.toList.map Char.toLower = quantifier.word.toList ∧
      ∀ whole, Parser.question now scope source keyword cursor = .ok whole →
        ∃ predicate, whole.value = .nested quantifier (scope.depth + 1) source predicate
  | _ => True

theorem nested_of_question {scope : Scope ρ} {source : Expr ρ} {keyword : Token} {cursor : Cursor}
    {quantifier : Quantifier} {whole : Later cursor (Expr ρ)}
    (found : Quantifier.ofWord? keyword.lexeme = some quantifier)
    (answers : Parser.question now scope source keyword cursor = .ok whole) :
    ∃ predicate, whole.value = .nested quantifier (scope.depth + 1) source predicate := by
  rw [Parser.question, found] at answers
  cases isSequence : source.type.element? with
  | none =>
      rw [isSequence] at answers
      cases answers
  | some element =>
      rw [isSequence] at answers
      obtain ⟨opening, _, answers⟩ := bind_eq_ok_iff.1 answers
      obtain ⟨predicate, _, answers⟩ := bind_eq_ok_iff.1 answers
      simp only at answers
      split at answers
      · cases answers
      · obtain ⟨closing, _, answers⟩ := bind_eq_ok_iff.1 answers
        cases answers
        exact ⟨predicate.value, rfl⟩

/-- A question is asked with a token that was popped. -/
theorem Makes.known (makes : Makes now call made) : made.IsKnown now := by
  cases makes with
  | @question _ _ _ _ keyword sees asks =>
      obtain ⟨quantifier, found, lowered⟩ := (promised_of_lookahead sees).keyword asks
      exact ⟨quantifier, found, lowered, fun _ => nested_of_question found⟩
  | _ => trivial

theorem Reaches.known {root : ReaderCall ρ} (reaches : Reaches now root call)
    (known : root.IsKnown now) : call.IsKnown now := by
  cases reaches with
  | start => exact known
  | call _ makes => exact makes.known

end ReaderCall

theorem honest_query (now : DateTime) (scope : Scope ρ) (cursor : Cursor) :
    Honest Stuck.cause (query now scope cursor) := by
  have whole : Honest _ _ := ReaderCall.honest now (.expression scope lowestPrecedence cursor)
  refine whole.bind fun value _ => ?_
  refine honest_require.bind fun ending _ => ?_
  simp only
  split
  · exact .error rfl
  · exact .ok

end Parser

theorem honest_parse (now : DateTime) (type : ValueType ρ) (source : String) :
    Honest CompileError.cause (parse now type source) := by
  have whole := Parser.honest_query now ⟨type, []⟩ (Cursor.start source)
  rw [parse, Parser.nextQuery, Parser.start, Parser.scope]
  cases reads : Parser.query now ⟨type, []⟩ (Cursor.start source) with
  | ok read => exact .ok
  | error stuck => exact .error (whole stuck reads)

/-! ## Calls that are carried out -/

theorem Function.arity_pos (function : Function) : 0 < function.arity := by
  cases function <;> decide

/-- What a function gives is a time of the kind that it promises. -/
theorem Function.time_of_apply {function : Function} {values : List (Value ρ)} {value : Value ρ}
    (applies : function.apply values = .ok value) :
    (∃ point, value = .dateTime point ∧ (function.resultType : ValueType ρ) = .dateTime) ∨
      ∃ span, value = .timeSpan span ∧ (function.resultType : ValueType ρ) = .timeSpan := by
  cases function with
  | dateTime | dateTimeByFormat =>
      obtain ⟨point, _, rfl⟩ := map_eq_ok_iff.1 applies
      exact .inl ⟨point, rfl, rfl⟩
  | timeSpan =>
      obtain ⟨span, _, rfl⟩ := map_eq_ok_iff.1 applies
      exact .inr ⟨span, rfl, rfl⟩

namespace Expr

/-- A call comes to be carried out: there is a function with its name and so many arguments, and
they are literals of the type that it takes. -/
structure Folds (name : String) (arguments : List (Expr ρ)) (function : Function)
    (literals : List Literal) : Prop where
  resolves : Function.resolve? name arguments.length = some function
  typed : ∀ argument ∈ arguments, argument.type.same function.parameterType = true
  all : arguments.mapM literal? = some literals

theorem eq_map_of_mapM_literal? {arguments : List (Expr ρ)} {literals : List Literal}
    (all : arguments.mapM literal? = some literals) : arguments = literals.map .literal := by
  induction arguments generalizing literals with
  | nil =>
      cases all
      rfl
  | cons argument arguments ih =>
      simp only [List.mapM_cons, Option.pure_def, Option.bind_eq_bind, Option.bind_eq_some_iff,
        Option.some.injEq] at all
      obtain ⟨literal, is_literal, others, rest, rfl⟩ := all
      rw [ih rest, eq_literal_of_literal? is_literal, List.map_cons]

namespace Folds

variable {name : String} {arguments : List (Expr ρ)} {function : Function}
  {literals : List Literal}

theorem texts_of_arguments (folds : Folds name arguments function literals) :
    ∀ argument ∈ arguments, argument.type = .string :=
  fun argument mem => ValueType.same_string_eq_true_iff.1 (folds.typed argument mem)

theorem ofCall_eq_fold (folds : Folds name arguments function literals) :
    ofCall name arguments = fold function literals := by
  rw [ofCall_eq_callOf folds.resolves folds.texts_of_arguments, callOf_of_literals folds.all]

/-- There is at least one argument, there are as many as the function takes, and all are texts. -/
theorem exists_texts (folds : Folds name arguments function literals) :
    ∃ texts : List String, literals = texts.map .string ∧ texts ≠ [] ∧
      texts.length = function.arity := by
  have same := eq_map_of_mapM_literal? folds.all
  have strings : literals ∈ Set.range (List.map Literal.string) := by
    rw [Set.range_list_map]
    intro literal mem
    have type := folds.texts_of_arguments (.literal literal) (same ▸ List.mem_map_of_mem mem)
    cases literal with
    | string text => exact ⟨text, rfl⟩
    | _ => cases type
  obtain ⟨texts, rfl⟩ := strings
  have length : texts.length = function.arity := by
    rw [arity_of_resolve? folds.resolves, same, List.length_map, List.length_map]
  refine ⟨texts, rfl, ?_, length⟩
  rintro rfl
  exact absurd function.arity_pos (length ▸ lt_irrefl 0)

/-- What the function gives is the literal that the call becomes, of the type that the call has. -/
theorem ofCall_eq_literal (folds : Folds name arguments function literals) {value : Value ρ}
    (applies : function.apply (literals.map Literal.toValue) = .ok value) :
    ∃ literal : Literal, ofCall name arguments = .ok (.literal literal) ∧ literal.toValue = value ∧
      literal.type = (Expr.call function arguments).type := by
  obtain ⟨literal, becomes, type, time⟩ := Function.apply_eq_ok applies
  refine ⟨literal, ?_, becomes, type⟩
  rw [folds.ofCall_eq_fold, fold, applies]
  simp only [time]

end Folds

end Expr

/-- The parser never comes to its fallbacks, for any type of input and any query.  It does not end
with a literal that has no value or a function that gave no time, and neither does any call that is
reached.  The word of every question that is reached is that of a quantifier in any letter case, and
the question is one with this quantifier.  The lexer sees to that: a literal has a value, and it
takes no other words for questions.  A call that comes to be carried out has at least one argument,
as many as the function takes, all of them texts.  The function then gives a time of the kind that
it promises, and the call becomes the literal of this time, which has the type of the call. -/
theorem fallbacks_unreached (now : DateTime) (type : ValueType ρ) (source : String) :
    (∀ error, parse now type source = .error error →
      error.cause ≠ .literalWithoutValue ∧ error.cause ≠ .unexpectedResult) ∧
    (∀ call, (Parser.ReaderCall.ofQuery type source).Reaches now call →
      call.IsHonest now ∧ call.IsKnown now) ∧
    (∀ (cursor : Cursor) (popped : Popped cursor), cursor.pop = .ok popped →
      popped.token.Promised) ∧
    ∀ (name : String) (arguments : List (Expr ρ)) (function : Function) (literals : List Literal),
      Expr.Folds name arguments function literals →
      (∃ texts : List String, literals = texts.map .string ∧ texts ≠ [] ∧
        texts.length = function.arity) ∧
      ∀ value : Value ρ, function.apply (literals.map Literal.toValue) = .ok value →
        ((∃ point, value = .dateTime point ∧ (function.resultType : ValueType ρ) = .dateTime) ∨
          ∃ span, value = .timeSpan span ∧ (function.resultType : ValueType ρ) = .timeSpan) ∧
        ∃ literal : Literal, Expr.ofCall name arguments = .ok (.literal literal) ∧
          literal.toValue = value ∧ literal.type = (Expr.call function arguments).type := by
  refine ⟨?_, ?_, fun _ _ => Cursor.promised_of_pop, ?_⟩
  · intro error fails
    have honest := honest_parse now type source error fails
    refine ⟨fun same => ?_, fun same => ?_⟩
    · rw [same] at honest
      cases honest
    · rw [same] at honest
      cases honest
  · exact fun call reaches => ⟨call.honest now, reaches.known trivial⟩
  · intro name arguments function literals folds
    exact ⟨folds.exists_texts, fun value applies =>
      ⟨Function.time_of_apply applies, folds.ofCall_eq_literal applies⟩⟩

/-- A word in mixed case is popped as that of a question, and a call in capital letters is carried
out. -/
theorem fallbacks_unreached_mixed_case :
    (∃ popped : Popped (Cursor.start "cOuNt"), (Cursor.start "cOuNt").pop = .ok popped ∧
      popped.token.kind = .quantifier ∧
      ∃ quantifier, Quantifier.ofWord? popped.token.lexeme = some quantifier) ∧
    Expr.Folds "TIMESPAN" [(.literal (.string "2") : Expr Nat)] .timeSpan [.string "2"] ∧
    ∃ literal : Literal, Expr.ofCall "TIMESPAN" [(.literal (.string "2") : Expr Nat)] =
      .ok (.literal literal) ∧ (literal.type : ValueType Nat) = .timeSpan := by
  obtain ⟨_, _, promises, carries_out⟩ :=
    fallbacks_unreached (ρ := Nat) ⟨⟨0, by decide⟩, .midnight⟩ .boolean "cOuNt"
  have folds : Expr.Folds "TIMESPAN" [(.literal (.string "2") : Expr Nat)] .timeSpan
      [.string "2"] :=
    ⟨rfl, by simp [Function.parameterType, Expr.type, Literal.type, ValueType.same], rfl⟩
  refine ⟨?_, folds, ?_⟩
  · have word : ∃ popped, (Cursor.start "cOuNt").pop = .ok popped ∧
        popped.token.kind = .quantifier := ⟨_, rfl, rfl⟩
    obtain ⟨popped, pops, asks⟩ := word
    obtain ⟨quantifier, found, _⟩ := (promises _ popped pops).keyword asks
    exact ⟨popped, pops, asks, quantifier, found⟩
  · have applies : ∃ value : Value Nat, Function.timeSpan.apply [.string "2"] = .ok value :=
      ⟨_, rfl⟩
    obtain ⟨value, applies⟩ := applies
    obtain ⟨_, literal, becomes, _, type⟩ := (carries_out _ _ _ _ folds).2 value applies
    exact ⟨literal, becomes, type⟩

end RecordQuery
