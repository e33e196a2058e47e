import RecordQuery.Proofs.Grammar.ParseTree

/-!
# The tree of a derivation

Whatever the grammar derives over a text, the tokens that it reads there are those of a tree with
the same expression, and this tree stands before whatever follows (`Reads.yields`).  So the parser
groups the tokens of a query as a tree that stands before the end, and the expression that it gives
is the one of that tree.

The tree grows the way the parser builds its expressions: members, questions and operators are put
behind a tree that was read before.  A dot behind an expression would be a member of its last
operand; where there is none to take it, nothing is promised about the tree.
-/

set_option autoImplicit false

namespace RecordQuery

open Word (read? Stops)

variable {ρ : Type} {now : DateTime}

/-- An expression that a member is read off is no scalar. -/
theorem Expr.not_scalar_of_ofMember {base whole : Expr ρ} {name : String}
    (resolves : base.ofMember name = .ok whole) : ¬ base.type.Scalar := by
  intro scalar
  obtain ⟨found, resolved, _⟩ := ofMember_eq_ok_iff.1 resolves
  have mem := ValueType.mem_of_resolveMember resolved
  rw [scalar.members_eq_nil] at mem
  cases mem

/-! ## What phrases yield -/

/-- Between two cursors are the tokens of a tree with the expression, which stands where it is, in
the given sense, before any word that follows. -/
def Yields (now : DateTime) (scope : Scope ρ) (whole : Expr ρ) (stands : ParseTree → Word → Prop)
    (cursor last : Cursor) : Prop :=
  ∃ tree : ParseTree, cursor.Pops tree.tokens last ∧ tree.build now scope = some whole ∧
    ∀ next after, read? last.rest = some (next, after) → stands tree next

/-- The tree is an operand: it stands with any floor, and before a dot unless it is a scalar. -/
def StandsAsOperand (whole : Expr ρ) (tree : ParseTree) (next : Word) : Prop :=
  (next.kind = .mark .dot → ¬ whole.type.Scalar) → ∀ floor, tree.Stands floor next

/-- The tree stands with the floor before anything but a dot. -/
def StandsAsExpression (floor : Int) (tree : ParseTree) (next : Word) : Prop :=
  next.kind ≠ .mark .dot → tree.Stands floor next

/-- What a phrase between two cursors says about the tokens there. -/
def Phrase.Yields (now : DateTime) (cursor last : Cursor) : Phrase ρ → Prop
  | .suffixes base whole =>
    ∀ scope first, RecordQuery.Yields now scope base (StandsAsOperand base) first cursor →
      RecordQuery.Yields now scope whole (StandsAsOperand whole) first last
  | .expression scope floor whole =>
    RecordQuery.Yields now scope whole (StandsAsExpression floor) cursor last
  | .primary scope whole => RecordQuery.Yields now scope whole (StandsAsOperand whole) cursor last
  | .continuation scope floor left whole =>
    ∀ first, RecordQuery.Yields now scope left (StandsAsExpression floor) first cursor →
      RecordQuery.Yields now scope whole (StandsAsExpression floor) first last
  | .arguments scope values =>
    ∃ opening closing : Token, opening.kind = .mark .parenthesisOpen ∧
      closing.kind = .mark .parenthesisClose ∧
      ((values = [] ∧ cursor.Pops [opening, closing] last) ∨
        ∃ arguments : ArgumentTree,
          cursor.Pops (opening :: (arguments.tokens ++ [closing])) last ∧
          arguments.build now scope = some values ∧ arguments.Stands closing.word)
  | .listed scope values =>
    ∃ arguments : ArgumentTree, cursor.Pops arguments.tokens last ∧
      arguments.build now scope = some values ∧
      ∀ next after, read? last.rest = some (next, after) → next.kind ≠ .mark .dot →
        arguments.Stands next
  | .question scope keyword source whole =>
    ∃ opening closing : Token, opening.kind = .mark .blockOpen ∧
      closing.kind = .mark .blockClose ∧
      ∃ predicate : ParseTree,
        cursor.Pops (opening :: (predicate.tokens ++ [closing])) last ∧
        predicate.Stands lowestPrecedence closing.word ∧
        ∀ (tree : ParseTree) (token : Token), tree.build now scope = some source →
          token.lexeme = keyword →
          (ParseTree.asked tree token opening predicate closing).build now scope = some whole

/-- A word that is an expression alone yields its token. -/
theorem Yields.word {scope : Scope ρ} {whole : Expr ρ} {word : Word} {kind : TokenKind}
    {text rest : List Char} {cursor : Cursor} (reads : read? text = some (word, rest))
    (same : word.kind = kind) (real : kind ≠ .endOfInput)
    (builds : ∀ token : Token, token.word = word → token.build now scope = some whole)
    (uncalled : word.kind = .identifier → ∀ next after, read? rest = some (next, after) →
      next.kind ≠ .mark .parenthesisOpen) (here : cursor.rest = text) :
    ∃ last : Cursor, last.rest = rest ∧
      Yields now scope whole (StandsAsOperand whole) cursor last := by
  obtain ⟨token, last, pops, rfl, rfl⟩ := Cursor.pops_of_read? (here ▸ reads) same real
  exact ⟨last, rfl, .word token, pops, builds token rfl,
    fun next after follows _ _ isName => uncalled isName next after follows⟩

section Growing

variable {scope : Scope ρ} {whole : Expr ρ} {floor : Int} {first cursor next last : Cursor}
  {after : List Char}

/-- A member is taken off the operand before its dot. -/
theorem Yields.member {base : Expr ρ} {dot name : Token}
    (yields : Yields now scope base (StandsAsOperand base) first cursor)
    (reads : read? cursor.rest = some (dot.word, after)) (pops : cursor.Pops [dot, name] last)
    (isDot : dot.kind = .mark .dot) (isName : name.kind = .identifier)
    (resolves : base.ofMember name.lexeme = .ok whole) :
    Yields now scope whole (StandsAsOperand whole) first last := by
  obtain ⟨tree, popsBase, builds, stands⟩ := yields
  refine ⟨.member tree dot name, popsBase.append pops, ?_, fun _ _ _ _ floor => ?_⟩
  · simp only [ParseTree.build, builds, Option.bind_eq_bind, Option.bind_some]
    exact Except.toOption_eq_some_iff.2 resolves
  · have noScalar : ¬ base.type.Scalar := Expr.not_scalar_of_ofMember resolves
    exact ⟨isDot, isName, stands _ _ reads (fun _ => noScalar) floor⟩

/-- A unary operator stands before its operand.  What it gives is a scalar, so no dot follows. -/
theorem Yields.unary {operand : Expr ρ} {token : Token} {mark : Mark} {op : UnaryOp}
    (yields : Yields now scope operand (StandsAsExpression lowestPrecedence) cursor last)
    (pops : first.Pops [token] cursor) (isMark : token.kind = .mark mark)
    (prefixes : mark.unary? = some op)
    (ends : ∃ word after, read? last.rest = some (word, after) ∧ word.Stops lowestPrecedence)
    (builds : Expr.ofUnary op token.lexeme operand = .ok whole) :
    Yields now scope whole (StandsAsOperand whole) first last := by
  obtain ⟨tree, popsOperand, buildsOperand, stands⟩ := yields
  refine ⟨.unary token tree, pops.append popsOperand, ?_, ?_⟩
  · simp only [ParseTree.build, buildsOperand, Token.mark?_eq_some_iff.2 isMark, prefixes,
      Option.bind_eq_bind, Option.bind_some]
    exact Except.toOption_eq_some_iff.2 builds
  · intro next after follows noScalar floor
    have other : next.kind ≠ .mark .dot := fun isDot =>
      noScalar isDot (Expr.scalar_of_ofUnary builds)
    obtain ⟨_, _, follows', stops⟩ := ends
    cases follows.symm.trans follows'
    exact ⟨stands _ _ follows other, stops, other⟩

/-- A question is asked about what stands before its keyword. -/
theorem Yields.asked {source : Expr ρ} {keyword opening closing : Token} {predicate : ParseTree}
    (yields : Yields now scope source (StandsAsExpression floor) first cursor)
    (reads : read? cursor.rest = some (keyword.word, after))
    (pops : cursor.Pops (keyword :: opening :: (predicate.tokens ++ [closing])) last)
    (isKeyword : keyword.kind = .quantifier) (isOpen : opening.kind = .mark .blockOpen)
    (isClose : closing.kind = .mark .blockClose)
    (inside : predicate.Stands lowestPrecedence closing.word)
    (answers : ∀ tree : ParseTree, tree.build now scope = some source →
      (ParseTree.asked tree keyword opening predicate closing).build now scope = some whole) :
    Yields now scope whole (StandsAsExpression floor) first last := by
  obtain ⟨tree, popsSource, builds, stands⟩ := yields
  have noDot : keyword.kind ≠ .mark .dot := by simp [isKeyword]
  exact ⟨.asked tree keyword opening predicate closing, popsSource.append pops,
    answers tree builds, fun _ _ _ other =>
      ⟨isKeyword, isOpen, isClose, stands _ _ reads noDot, inside, other⟩⟩

/-- A binary operator stands between its operands. -/
theorem Yields.binary {left right : Expr ρ} {token : Token} {mark : Mark} {entry : BinaryEntry}
    (yieldsLeft : Yields now scope left (StandsAsExpression floor) first cursor)
    (yieldsRight : Yields now scope right (StandsAsExpression entry.precedence) next last)
    (reads : read? cursor.rest = some (token.word, after)) (pops : cursor.Pops [token] next)
    (isMark : token.kind = .mark mark) (joins : mark.binary? = some entry)
    (binds : floor < entry.precedence)
    (ends : ∃ word after, read? last.rest = some (word, after) ∧ word.Stops entry.precedence)
    (builds : Expr.ofBinary entry left right = .ok whole) :
    Yields now scope whole (StandsAsExpression floor) first last := by
  obtain ⟨left, popsLeft, buildsLeft, standsLeft⟩ := yieldsLeft
  obtain ⟨right, popsRight, buildsRight, standsRight⟩ := yieldsRight
  have isMark' := Token.mark?_eq_some_iff.2 isMark
  refine ⟨.binary left token right, popsLeft.append (pops.append popsRight), ?_, ?_⟩
  · simp only [ParseTree.build, buildsLeft, buildsRight, isMark', joins, Option.bind_eq_bind,
      Option.bind_some]
    exact Except.toOption_eq_some_iff.2 builds
  · intro next after follows other
    obtain ⟨_, _, follows', stops⟩ := ends
    cases follows.symm.trans follows'
    have noDot := Token.noDot_of_binary? isMark joins
    exact ⟨_, by rw [isMark', Option.bind_some, joins], binds, standsLeft _ _ reads noDot,
      standsRight _ _ follows other, stops, other⟩

end Growing

/-- A derivation yields the tokens of a tree, wherever it is read. -/
theorem Reads.yields {phrase : Phrase ρ} {text rest : List Char}
    (derivation : Reads now phrase text rest) :
    ∀ cursor : Cursor, cursor.rest = text →
      ∃ last : Cursor, last.rest = rest ∧ phrase.Yields now cursor last := by
  induction derivation with
  | noSuffix next other =>
      rintro cursor rfl
      exact ⟨cursor, rfl, fun _ _ => id⟩
  | @suffix base owner whole text afterDot afterName rest dot name point isDot named isName resolves
      more ih =>
      rintro cursor rfl
      obtain ⟨dot, middle, popsDot, rfl, rfl⟩ := Cursor.pops_of_mark point isDot
      obtain ⟨name, next, popsName, rfl, rfl⟩ := Cursor.pops_of_read? named isName (by simp)
      obtain ⟨last, rest, yields⟩ := ih next rfl
      exact ⟨last, rest, fun scope first base => yields scope first
        (base.member point (popsDot.append popsName) isDot isName resolves)⟩
  | expression primary suffixes continuation ihPrimary ihSuffixes ihContinuation =>
      rintro cursor rfl
      obtain ⟨first, rfl, yieldsFirst⟩ := ihPrimary cursor rfl
      obtain ⟨second, rfl, yieldsSecond⟩ := ihSuffixes first rfl
      obtain ⟨last, rest, yieldsLast⟩ := ihContinuation second rfl
      refine ⟨last, rest, yieldsLast cursor ?_⟩
      obtain ⟨tree, pops, builds, stands⟩ := yieldsSecond _ cursor yieldsFirst
      exact ⟨tree, pops, builds, fun next after follows other =>
        stands next after follows (fun same => absurd same other) _⟩
  | call named isName opens isOpen arguments builds ih =>
      rintro cursor rfl
      obtain ⟨name, first, popsName, rfl, rfl⟩ := Cursor.pops_of_read? named isName (by simp)
      obtain ⟨last, rest, opening, closing, isOpening, isClosing, called⟩ := ih first rfl
      refine ⟨last, rest, ?_⟩
      rcases called with ⟨rfl, pops⟩ | ⟨arguments, pops, buildsArguments, stands⟩
      · refine ⟨.emptyCall name opening closing, popsName.append pops,
          Except.toOption_eq_some_iff.2 builds, fun _ _ _ _ _ => ?_⟩
        exact ⟨isName, isOpening, isClosing⟩
      · refine ⟨.call name opening arguments closing, popsName.append pops, ?_,
          fun _ _ _ _ _ => ⟨isName, isOpening, isClosing, stands⟩⟩
        simp only [ParseTree.build, buildsArguments, Option.bind_eq_bind, Option.bind_some]
        exact Except.toOption_eq_some_iff.2 builds
  | name named isName follows other resolves =>
      intro cursor here
      refine Yields.word named isName (by simp) ?_ ?_ here
      · rintro token rfl
        simp only [Token.build, show token.kind = .identifier from isName]
        exact Except.toOption_eq_some_iff.2 resolves
      · intro _ next after reads
        cases follows.symm.trans reads
        exact other
  | now reads isNow =>
      intro cursor here
      refine Yields.word reads isNow (by simp) ?_ (by simp [isNow]) here
      rintro token rfl
      simp only [Token.build, show token.kind = .now from isNow]
  | input reads isRun resolves =>
      intro cursor here
      refine Yields.word reads isRun (by simp) ?_ (by simp [isRun]) here
      rintro token rfl
      simp only [Token.build, show token.kind = .input from isRun]
      exact Except.toOption_eq_some_iff.2 resolves
  | literal reads isLiteral carries =>
      intro cursor here
      refine Yields.word reads isLiteral (by simp) ?_ (by simp [isLiteral]) here
      rintro token rfl
      simp only [Token.build, show token.kind = .literal from isLiteral]
      exact Option.map_eq_some_iff.2 ⟨_, carries, rfl⟩
  | group opens isOpen expression closes isClose ih =>
      rintro cursor rfl
      obtain ⟨opening, first, popsOpen, rfl, rfl⟩ := Cursor.pops_of_mark opens isOpen
      obtain ⟨second, rfl, tree, pops, builds, stands⟩ := ih first rfl
      obtain ⟨closing, last, popsClose, rfl, rfl⟩ := Cursor.pops_of_mark closes isClose
      refine ⟨last, rfl, .group opening tree closing,
        popsOpen.append (pops.append popsClose), builds, fun _ _ _ _ _ => ?_⟩
      exact ⟨isOpen, isClose, stands _ _ closes (by simp [isClose])⟩
  | unary reads isMark prefixes expression builds ih =>
      rintro cursor rfl
      obtain ⟨mark, first, popsMark, rfl, rfl⟩ := Cursor.pops_of_mark reads isMark
      obtain ⟨last, rfl, operand⟩ := ih first rfl
      exact ⟨last, rfl, operand.unary popsMark isMark prefixes expression.endsBefore builds⟩
  | noArguments opens isOpen closes isClose =>
      rintro cursor rfl
      obtain ⟨opening, first, popsOpen, rfl, rfl⟩ := Cursor.pops_of_mark opens isOpen
      obtain ⟨closing, last, popsClose, rfl, rfl⟩ := Cursor.pops_of_mark closes isClose
      exact ⟨last, rfl, opening, closing, isOpen, isClose, .inl ⟨rfl, popsOpen.append popsClose⟩⟩
  | arguments opens isOpen next other listed closes isClose ih =>
      rintro cursor rfl
      obtain ⟨opening, first, popsOpen, rfl, rfl⟩ := Cursor.pops_of_mark opens isOpen
      obtain ⟨second, rfl, arguments, pops, builds, stands⟩ := ih first rfl
      obtain ⟨closing, last, popsClose, rfl, rfl⟩ := Cursor.pops_of_mark closes isClose
      refine ⟨last, rfl, opening, closing, isOpen, isClose, .inr ⟨arguments,
        popsOpen.append (pops.append popsClose), builds, ?_⟩⟩
      exact stands _ _ closes (by simp [isClose])
  | last expression follows other ih =>
      rintro cursor rfl
      obtain ⟨last, rfl, tree, pops, builds, stands⟩ := ih cursor rfl
      refine ⟨last, rfl, .last tree, pops, ?_, stands⟩
      simp only [ArgumentTree.build, builds, Option.bind_eq_bind, Option.bind_some,
        Option.pure_def]
  | cons expression separates isComma listed ihExpression ihListed =>
      rintro cursor rfl
      obtain ⟨first, rfl, tree, pops, builds, stands⟩ := ihExpression cursor rfl
      obtain ⟨comma, second, popsComma, rfl, rfl⟩ := Cursor.pops_of_mark separates isComma
      obtain ⟨last, rfl, others, popsOthers, buildsOthers, standsOthers⟩ := ihListed second rfl
      refine ⟨last, rfl, .more tree comma others, pops.append (popsComma.append popsOthers), ?_, ?_⟩
      · simp only [ArgumentTree.build, builds, buildsOthers, Option.bind_eq_bind, Option.bind_some,
          Option.pure_def]
      · intro next after follows other
        exact ⟨isComma, stands _ _ separates (by simp [isComma]),
          standsOthers next after follows other⟩
  | stop =>
      rintro cursor rfl
      exact ⟨cursor, rfl, fun _ => id⟩
  | asked reads isKeyword question continuation ihQuestion ihContinuation =>
      rintro cursor rfl
      obtain ⟨keyword, first, popsKeyword, rfl, rfl⟩ :=
        Cursor.pops_of_read? reads isKeyword (by simp)
      obtain ⟨second, rfl, opening, closing, isOpen, isClose, predicate, popsBlock, inside,
        answers⟩ := ihQuestion first rfl
      obtain ⟨last, rest, yields⟩ := ihContinuation second rfl
      exact ⟨last, rest, fun start source => yields start (source.asked reads
        (popsKeyword.append popsBlock) isKeyword isOpen isClose inside
        fun tree builds => answers tree keyword builds rfl)⟩
  | operator reads isMark joins binds expression builds continuation ihExpression
      ihContinuation =>
      rintro cursor rfl
      obtain ⟨mark, first, popsMark, rfl, rfl⟩ := Cursor.pops_of_mark reads isMark
      obtain ⟨second, rfl, right⟩ := ihExpression first rfl
      obtain ⟨last, rest, yields⟩ := ihContinuation second rfl
      exact ⟨last, rest, fun start left => yields start (left.binary right reads popsMark isMark
        joins binds expression.endsBefore builds)⟩
  | question sequence opens isOpen expression boolean closes isClose ih =>
      rintro cursor rfl
      obtain ⟨opening, first, popsOpen, rfl, rfl⟩ := Cursor.pops_of_mark opens isOpen
      obtain ⟨second, rfl, predicate, pops, builds, stands⟩ := ih first rfl
      obtain ⟨closing, last, popsClose, rfl, rfl⟩ := Cursor.pops_of_mark closes isClose
      refine ⟨last, rfl, opening, closing, isOpen, isClose, predicate,
        popsOpen.append (pops.append popsClose), stands _ _ closes (by simp [isClose]), ?_⟩
      rintro tree token buildsSource rfl
      simp only [ParseTree.build, buildsSource, sequence, builds, boolean, Option.bind_eq_bind,
        Option.bind_some, if_true]

end RecordQuery
