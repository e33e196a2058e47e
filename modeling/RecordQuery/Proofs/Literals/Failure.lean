import RecordQuery.Proofs.Literals.Compilation

/-!
# Queries that fail for their literals

Where a query with references compiles, the one with literals may fail, because work on literals is
done when they are read.  It fails for nothing else: the reader goes the same way on both sides up
to the builder that works on an exchanged literal, and that literal is to blame (`Reads.backward`).

What is known of the failure is its cause, so the readers themselves are compared with a derivation
of the other query, and not two derivations (`Phrase.Backward`, with one lemma for each rule that
has parts).  A blamed part stays a part of everything that is built from it on the other side, so
the blame reaches the whole query.
-/

set_option autoImplicit false

namespace RecordQuery

open Word (read?)

variable {ρ : Type}

/-! ## Ends of readers -/

section Ends

variable {α β : Type} {good : α → Prop} {good' : β → Prop} {bad bad' : Cause → Prop}

/-- What is read has the one property, or nothing is read and the cause has the other one. -/
def Ends (good : α → Prop) (bad : Cause → Prop) : Except Stuck α → Prop
  | .ok value => good value
  | .error stuck => bad stuck.error.cause

theorem Ends.bind {result : Except Stuck α} {next : α → Except Stuck β}
    (first : Ends good bad result) (fails : ∀ cause, bad cause → bad' cause)
    (second : ∀ value, good value → Ends good' bad' (next value)) :
    Ends good' bad' (result >>= next) := by
  cases result with
  | error stuck => exact fails _ first
  | ok value => exact second value first

/-- A step with the same bad causes follows. -/
theorem Ends.andThen {result : Except Stuck α} {next : α → Except Stuck β}
    (first : Ends good bad result) (second : ∀ value, good value → Ends good' bad (next value)) :
    Ends good' bad (result >>= next) :=
  first.bind (fun _ cause => cause) second

theorem Ends.bind_ok {result : Except Stuck α} {next : α → Except Stuck β} {value : α}
    (first : result = .ok value) (second : Ends good' bad' (next value)) :
    Ends good' bad' (result >>= next) := by
  subst first
  exact second

theorem Ends.settle {cursor : Cursor} {token : Token} {result : Except Cause (Expr ρ)}
    {exchange : Exchange ρ} [BEq ρ] {whole : Expr ρ} (settles : exchange.Settles whole result) :
    Ends (exchange.Alike · whole) (exchange.Blames whole) (cursor.settle token result) := by
  rcases settles with ⟨built, rfl, alike⟩ | ⟨cause, rfl, blames⟩
  · exact alike
  · exact blames

end Ends

/-! ## What a blamed part stays in -/

section Blamed

variable [BEq ρ] {exchange : Exchange ρ} {cause : Cause}

/-- What shows the failure on the other side is a comparison or a call, and no literal. -/
theorem Exchange.Blames.not_literal {part : Expr ρ} (blames : exchange.Blames part cause) :
    part.literal? = none := by
  cases part with
  | literal value =>
      cases blames with
      | pattern inside => cases inside
      | call inside => cases inside
  | _ => rfl

end Blamed

/-- A call with an argument that is no literal is not carried out. -/
theorem Expr.PartOf.of_ofCall {name : String} {arguments : List (Expr ρ)}
    {argument whole : Expr ρ} (builds : Expr.ofCall name arguments = .ok whole)
    (mem : argument ∈ arguments) (open_ : argument.literal? = none) : argument.PartOf whole := by
  obtain ⟨function, _, _, builds⟩ := Expr.ofCall_eq_ok_iff.1 builds
  cases (Expr.callOf_of_open function (Expr.mapM_literal?_of_open mem open_)).symm.trans builds
  exact .argument mem .whole

/-! ## What stands in the other query -/

/-- The phrase is found in a text that faces the text of the derivation, or the reader fails for a
literal in it. -/
def Phrase.Backward [BEq ρ] (exchange : Exchange ρ) (now : DateTime) (text' rest' : List Char) :
    Phrase ρ → Prop
  | .suffixes base' whole' =>
      ∀ (depth : Nat) (base : Expr ρ) (text : List Char), exchange.Alike base base' →
        exchange.Facing depth text text' →
        ∃ whole rest, Reads now (.suffixes base whole) text rest ∧
          exchange.Alike whole whole' ∧ exchange.Facing depth rest rest'
  | .expression scope floor whole' =>
      scope.OutermostIs exchange.root →
        ∀ cursor : Cursor, exchange.Facing scope.depth cursor.rest text' →
        Ends (fun read => exchange.Alike read.value whole' ∧
            exchange.Facing scope.depth read.next.rest rest')
          (exchange.Blames whole') (Parser.expression now scope floor cursor)
  | .primary scope whole' =>
      scope.OutermostIs exchange.root →
        ∀ cursor : Cursor, exchange.Begins scope.depth cursor.rest text' →
        Ends (fun read => exchange.Alike read.value whole' ∧
            exchange.Facing scope.depth read.next.rest rest')
          (exchange.Blames whole') (Parser.primary now scope cursor)
  | .arguments scope values' =>
      scope.OutermostIs exchange.root →
        ∀ cursor : Cursor, exchange.Facing scope.depth cursor.rest text' →
        Ends (fun read => List.Forall₂ exchange.Alike read.value values' ∧
            exchange.Facing scope.depth read.next.rest rest')
          (fun cause => ∃ value' ∈ values', exchange.Blames value' cause)
          (Parser.arguments now scope cursor)
  | .listed scope values' =>
      scope.OutermostIs exchange.root →
        ∀ cursor : Cursor, exchange.Facing scope.depth cursor.rest text' →
        Ends (fun read => List.Forall₂ exchange.Alike read.value values' ∧
            exchange.Facing scope.depth read.next.rest rest')
          (fun cause => ∃ value' ∈ values', exchange.Blames value' cause)
          (Parser.listed now scope cursor)
  | .continuation scope floor left' whole' =>
      scope.OutermostIs exchange.root →
        ∀ (left : Expr ρ) (cursor : Cursor), exchange.Alike left left' →
        exchange.Facing scope.depth cursor.rest text' →
        Ends (fun read => exchange.Alike read.value whole' ∧
            exchange.Facing scope.depth read.next.rest rest')
          (exchange.Blames whole') (Parser.continuation now scope floor left cursor)
  | .question scope keyword source' whole' =>
      scope.OutermostIs exchange.root →
        ∀ (source : Expr ρ) (token : Token) (cursor : Cursor), token.lexeme = keyword →
        exchange.Alike source source' → exchange.Facing scope.depth cursor.rest text' →
        Ends (fun read => exchange.Alike read.value whole' ∧
            exchange.Facing scope.depth read.next.rest rest')
          (exchange.Blames whole') (Parser.question now scope source token cursor)

section Backward

open RecordQuery.Parser Cursor

variable [BEq ρ] {exchange : Exchange ρ} {now : DateTime}

/-- What is the same on both sides is read on one side as on the other. -/
theorem Reads.primary_ends {scope : Scope ρ} {whole : Expr ρ} {cursor : Cursor}
    {rest rest' : List Char} (derivation : Reads now (.primary scope whole) cursor.rest rest)
    (facing : exchange.Facing scope.depth rest rest') :
    Ends (fun read => exchange.Alike read.value whole ∧
        exchange.Facing scope.depth read.next.rest rest')
      (exchange.Blames whole) (primary now scope cursor) := by
  obtain ⟨read, returns, rfl, rfl⟩ := parses_of_reads derivation cursor rfl
  rw [returns]
  exact ⟨.refl _, facing⟩

/-! ## One rule after another -/

namespace Phrase.Backward

variable {scope : Scope ρ} {floor : Int} {text' rest' afterFirst' afterLeft' afterName' : List Char}
  {afterOpen' afterInner' afterMark' afterRight' afterWord' afterBlock' afterComma' : List Char}
  {after' : List Char} {base' owner' first' left' right' joined' operand' inner' : Expr ρ}
  {answered' source' predicate' value' whole' : Expr ρ} {values' : List (Expr ρ)}
  {name word next opening closing dot comma keyword : Word} {mark : Mark}

/-- A literal stands where the other query has a run of `$`, a dot and a member.  It is read as one
primary expression without suffixes, and what follows it faces what follows the member. -/
theorem literal_for_reference (outermost : scope.OutermostIs exchange.root)
    (primary' : Reads now (.primary scope first') text' afterFirst')
    (suffixes' : Reads now (.suffixes first' left') afterFirst' afterLeft')
    (more : (Phrase.continuation scope floor left' whole').Backward exchange now afterLeft' rest')
    {cursor : Cursor} {after : List Char}
    (reference : ReadsReference exchange.name scope.depth text')
    (reads : read? cursor.rest = some (word, after)) (isLiteral : word.kind = .literal)
    (carries : word.literal? = some (.string exchange.text))
    (facing : exchange.Facing scope.depth after reference.after) :
    Ends (fun read => exchange.Alike read.value whole' ∧
        exchange.Facing scope.depth read.next.rest rest')
      (exchange.Blames whole') (Parser.expression now scope floor cursor) := by
  obtain ⟨rfl, rfl, next', behind', follows', other'⟩ :=
    Exchange.reads_reference outermost reference primary' suffixes'
  obtain ⟨next, behind, follows, other⟩ := facing.backward_ne follows' other'
  have begins : Reads now (.primary scope (.literal (.string exchange.text))) cursor.rest after :=
    .literal reads isLiteral carries
  obtain ⟨first, begun, made, rfl⟩ := parses_of_reads begins cursor rfl
  have ends : Reads now (.suffixes first.value first.value) first.next.rest first.next.rest :=
    .noSuffix follows other
  obtain ⟨left, suffixed, same, kept⟩ := parses_of_reads ends first.next rfl
  have alike : exchange.Alike left.value exchange.reference := by
    rw [same, made]
    exact .exchanged
  rw [← kept] at facing
  rw [Parser.expression]
  refine .bind_ok begun (.bind_ok suffixed ?_)
  exact (more outermost left.value left.next alike facing).andThen fun _ read => read

/-- The first words agree, and a part after the other is read and may be to blame; or they do not,
and there is a literal in the place of a reference. -/
theorem expression (primary' : Reads now (.primary scope first') text' afterFirst')
    (suffixes' : Reads now (.suffixes first' left') afterFirst' afterLeft')
    (continuation' : Reads now (.continuation scope floor left' whole') afterLeft' rest')
    (firsts : (Phrase.primary scope first').Backward exchange now text' afterFirst')
    (lefts : (Phrase.suffixes first' left').Backward exchange now afterFirst' afterLeft')
    (more : (Phrase.continuation scope floor left' whole').Backward exchange now afterLeft' rest') :
    (Phrase.expression scope floor whole').Backward exchange now text' rest' := by
  intro outermost cursor facing
  obtain ⟨word, after', reads'⟩ := primary'.exists_first
  rcases facing.backward reads' with
    ⟨after, reads, facing⟩ | ⟨_, literal, after, reference, reads, isLiteral, carries, facing⟩
  · rw [Parser.expression]
    refine (firsts outermost cursor ⟨word, after, after', reads, reads', facing⟩).bind
      (fun _ blames => blames.mono (suffixes'.keeps.trans continuation'.keeps)) ?_
    rintro first ⟨alike, facing⟩
    obtain ⟨whole, rest, suffixes, alike, facing⟩ :=
      lefts _ first.value first.next.rest alike facing
    obtain ⟨left, suffixed, rfl, rfl⟩ := parses_of_reads suffixes first.next rfl
    refine .bind_ok suffixed ?_
    exact (more outermost left.value left.next alike facing).andThen fun _ read => read
  · exact literal_for_reference outermost primary' suffixes' more reference reads isLiteral carries
      facing

theorem suffix (point' : read? text' = some (dot, afterWord')) (isDot : dot.kind = .mark .dot)
    (named' : read? afterWord' = some (name, afterName')) (isName : name.kind = .identifier)
    (resolves' : base'.ofMember name.lexeme = .ok owner')
    (more : (Phrase.suffixes owner' whole').Backward exchange now afterName' rest') :
    (Phrase.suffixes base' whole').Backward exchange now text' rest' := by
  intro depth base text alike facing
  obtain ⟨afterDot, point, facing⟩ := facing.backward_kind point' isDot (by decide)
  obtain ⟨afterName, named, facing⟩ := facing.backward_kind named' isName (by decide)
  obtain ⟨found, resolved, rfl⟩ := Expr.ofMember_eq_ok_iff.1 resolves'
  rw [alike.type] at resolved
  have resolves := Expr.ofMember_eq_ok_iff.2 ⟨found, resolved, rfl⟩
  obtain ⟨whole, rest, more, alike, facing⟩ := more depth _ afterName (alike.member found) facing
  exact ⟨whole, rest, .suffix point isDot named isName resolves more, alike, facing⟩

/-- A call is not carried out if one of its arguments is to blame, so that stays a part of it. -/
theorem call (named' : read? text' = some (name, afterName')) (isName : name.kind = .identifier)
    (opens' : read? afterName' = some (next, after'))
    (isOpen : next.kind = .mark .parenthesisOpen)
    (builds' : Expr.ofCall name.lexeme values' = .ok whole')
    (arguments : (Phrase.arguments scope values').Backward exchange now afterName' rest') :
    (Phrase.primary scope whole').Backward exchange now text' rest' := by
  intro outermost cursor begins
  obtain ⟨afterName, named, facing⟩ := begins.backward named' isName
  obtain ⟨⟨⟨start, kind, lexeme, literal?⟩, next, shorter⟩, first, rfl, rfl⟩ :=
    firstToken_of_read? named (by rw [isName]; decide)
  obtain rfl : kind = .identifier := isName
  obtain ⟨after, opens, _⟩ := facing.backward_kind opens' isOpen (by decide)
  obtain ⟨peeked, peeks, rfl⟩ := peek_of_read? opens
  rw [Parser.primary]
  refine .bind_ok first (.bind_ok peeks ?_)
  rw [if_pos (show peeked.kind = _ from isOpen)]
  refine (arguments outermost next facing).bind ?_ ?_
  · rintro cause ⟨value', mem, blames⟩
    exact blames.mono (.of_ofCall builds' mem blames.not_literal)
  · rintro values ⟨alike, facing⟩
    exact (Ends.settle (Exchange.ofCall_backward alike builds')).andThen
      fun _ alike => ⟨alike, facing⟩

theorem group (opens' : read? text' = some (opening, afterOpen'))
    (isOpen : opening.kind = .mark .parenthesisOpen)
    (closes' : read? afterInner' = some (closing, rest'))
    (isClose : closing.kind = .mark .parenthesisClose)
    (inside : (Phrase.expression scope lowestPrecedence inner').Backward exchange now afterOpen'
      afterInner') :
    (Phrase.primary scope inner').Backward exchange now text' rest' := by
  intro outermost cursor begins
  obtain ⟨afterOpen, opens, facing⟩ := begins.backward opens' isOpen
  obtain ⟨⟨⟨start, kind, lexeme, literal?⟩, next, shorter⟩, first, rfl, rfl⟩ :=
    firstToken_of_read? opens (by rw [isOpen]; decide)
  obtain rfl : kind = .mark .parenthesisOpen := isOpen
  rw [Parser.primary]
  refine .bind_ok first ((inside outermost next facing).andThen ?_)
  rintro inner ⟨alike, facing⟩
  obtain ⟨rest, closes, facing⟩ := facing.backward_kind closes' isClose (by decide)
  obtain ⟨closing, takes, rfl, rfl⟩ := take_of_read? closes isClose
  exact .bind_ok takes ⟨alike, facing⟩

/-- The operand is a part of the whole, so a blamed operand is a blamed whole. -/
theorem unary {op : UnaryOp} (reads' : read? text' = some (word, afterMark'))
    (isMark : word.kind = .mark mark) (prefixes : mark.unary? = some op)
    (builds' : Expr.ofUnary op word.lexeme operand' = .ok whole')
    (operands : (Phrase.expression scope lowestPrecedence operand').Backward exchange now afterMark'
      rest') :
    (Phrase.primary scope whole').Backward exchange now text' rest' := by
  intro outermost cursor begins
  obtain ⟨afterMark, reads, facing⟩ := begins.backward reads' isMark
  rw [Mark.level_of_unary? prefixes] at facing
  obtain ⟨⟨⟨start, kind, lexeme, literal?⟩, next, shorter⟩, first, rfl, rfl⟩ :=
    firstToken_of_read? reads (by rw [isMark]; simp)
  obtain rfl : kind = .mark mark := isMark
  have blamed : ∀ cause, exchange.Blames operand' cause → exchange.Blames whole' cause :=
    fun _ blames => blames.mono (.of_ofUnary builds')
  rw [Parser.primary]
  cases mark <;> cases prefixes
  all_goals
    refine .bind_ok first ((operands outermost next facing).bind blamed ?_)
    rintro operand ⟨alike, facing⟩
    obtain ⟨whole, builds, alike⟩ := Exchange.ofUnary_backward alike builds'
    exact .bind_ok (settle_eq_ok_iff.2 builds) ⟨alike, facing⟩

theorem arguments (opens' : read? text' = some (opening, afterOpen'))
    (isOpen : opening.kind = .mark .parenthesisOpen)
    (follows' : read? afterOpen' = some (next, after'))
    (other' : next.kind ≠ .mark .parenthesisClose)
    (closes' : read? afterInner' = some (closing, rest'))
    (isClose : closing.kind = .mark .parenthesisClose)
    (inside : (Phrase.listed scope values').Backward exchange now afterOpen' afterInner') :
    (Phrase.arguments scope values').Backward exchange now text' rest' := by
  intro outermost cursor facing
  obtain ⟨afterOpen, opens, facing⟩ := facing.backward_kind opens' isOpen (by decide)
  obtain ⟨next, after, follows, other⟩ := facing.backward_ne follows' other'
  obtain ⟨opening, takes, _, kept⟩ := take_of_read? opens isOpen
  rw [Parser.arguments]
  refine .bind_ok takes ?_
  subst kept
  refine .bind_ok (tryTake_none_of_read? follows other) ?_
  refine (inside outermost opening.next facing).andThen ?_
  rintro values ⟨alike, facing⟩
  obtain ⟨rest, closes, facing⟩ := facing.backward_kind closes' isClose (by decide)
  obtain ⟨closing, takes, _, kept⟩ := take_of_read? closes isClose
  exact .bind_ok takes ⟨alike, kept ▸ facing⟩

theorem cons (separates' : read? afterFirst' = some (comma, afterComma'))
    (isComma : comma.kind = .mark .comma)
    (values : (Phrase.expression scope lowestPrecedence value').Backward exchange now text'
      afterFirst')
    (more : (Phrase.listed scope values').Backward exchange now afterComma' rest') :
    (Phrase.listed scope (value' :: values')).Backward exchange now text' rest' := by
  intro outermost cursor facing
  rw [Parser.listed]
  refine (values outermost cursor facing).bind
    (fun cause blames => ⟨_, List.mem_cons_self, blames⟩) ?_
  rintro value ⟨alike, facing⟩
  obtain ⟨afterComma, separates, facing⟩ := facing.backward_kind separates' isComma (by decide)
  obtain ⟨comma, tries, _, kept⟩ := tryTake_of_read? separates isComma
  refine .bind_ok tries ?_
  subst kept
  refine (more outermost comma.next facing).bind ?_ ?_
  · rintro cause ⟨value', mem, blames⟩
    exact ⟨value', List.mem_cons_of_mem _ mem, blames⟩
  · rintro values ⟨others, facing⟩
    exact ⟨.cons alike others, facing⟩

theorem asked (reads' : read? text' = some (keyword, afterWord'))
    (isKeyword : keyword.kind = .quantifier)
    (continuation' : Reads now (.continuation scope floor answered' whole') afterBlock' rest')
    (answers : (Phrase.question scope keyword.lexeme left' answered').Backward exchange now
      afterWord' afterBlock')
    (more : (Phrase.continuation scope floor answered' whole').Backward exchange now afterBlock'
      rest') :
    (Phrase.continuation scope floor left' whole').Backward exchange now text' rest' := by
  intro outermost left cursor alike facing
  obtain ⟨afterWord, reads, facing⟩ := facing.backward_kind reads' isKeyword (by decide)
  obtain ⟨⟨⟨start, kind, lexeme, literal?⟩, next, no_longer, shorter⟩, pops, rfl, rfl⟩ :=
    pop_of_read? reads
  obtain rfl : kind = .quantifier := isKeyword
  rw [Parser.continuation]
  refine .bind_ok (lookahead_eq_ok_iff.2 pops) ?_
  refine (answers outermost left ⟨start, .quantifier, lexeme, literal?⟩ next rfl alike
    facing).bind (fun _ blames => blames.mono continuation'.keeps) ?_
  rintro answered ⟨alike, facing⟩
  exact (more outermost answered.value answered.next alike facing).andThen fun _ read => read

/-- The right operand may be to blame, or the operator itself where the operand is a pattern. -/
theorem operator {entry : BinaryEntry} (reads' : read? text' = some (word, afterMark'))
    (isMark : word.kind = .mark mark) (joins : mark.binary? = some entry)
    (binds : floor < entry.precedence) (builds' : Expr.ofBinary entry left' right' = .ok joined')
    (continuation' : Reads now (.continuation scope floor joined' whole') afterRight' rest')
    (rights : (Phrase.expression scope entry.precedence right').Backward exchange now afterMark'
      afterRight')
    (more : (Phrase.continuation scope floor joined' whole').Backward exchange now afterRight'
      rest') :
    (Phrase.continuation scope floor left' whole').Backward exchange now text' rest' := by
  intro outermost left cursor lefts facing
  obtain ⟨afterMark, reads, facing⟩ := facing.backward_kind reads' isMark (by simp)
  rw [Mark.level_of_binary? joins] at facing
  obtain ⟨⟨⟨start, kind, lexeme, literal?⟩, next, no_longer, shorter⟩, pops, rfl, rfl⟩ :=
    pop_of_read? reads
  obtain rfl : kind = .mark mark := isMark
  rw [Parser.continuation]
  refine .bind_ok (lookahead_eq_ok_iff.2 pops) ?_
  simp only [joins]
  rw [if_neg (Int.not_le.2 binds)]
  refine (rights outermost next facing).bind (fun _ blames =>
    blames.mono ((Expr.PartOf.of_ofBinary builds').2.trans continuation'.keeps)) ?_
  rintro right ⟨rights, facing⟩
  refine (Ends.settle (Exchange.ofBinary_backward lefts rights builds')).bind
    (fun _ blames => blames.mono continuation'.keeps) ?_
  intro joined alike
  exact (more outermost joined right.next alike facing).andThen fun _ read => read

theorem question {element : ValueType ρ} {lexeme : String}
    (sequence : source'.type.element? = some element)
    (opens' : read? text' = some (opening, afterOpen')) (isOpen : opening.kind = .mark .blockOpen)
    (boolean : predicate'.type.isBoolean = true)
    (closes' : read? afterInner' = some (closing, rest'))
    (isClose : closing.kind = .mark .blockClose)
    (inside : (Phrase.expression (scope.enter element) lowestPrecedence predicate').Backward
      exchange now afterOpen' afterInner') :
    (Phrase.question scope lexeme source'
      (.nested ((Quantifier.ofWord? lexeme).getD .any) (scope.depth + 1) source'
        predicate')).Backward exchange now text' rest' := by
  rintro outermost source token cursor rfl sources facing
  obtain ⟨afterOpen, opens, facing⟩ := facing.backward_kind opens' isOpen (by decide)
  obtain ⟨opening, takes, _, kept⟩ := take_of_read? opens isOpen
  rw [sources.type] at sequence
  rw [Parser.question]
  simp only [sequence]
  refine .bind_ok takes ?_
  subst kept
  refine (inside (outermost.enter _) opening.next facing).bind
    (fun _ blames => blames.mono (.predicate .whole)) ?_
  rintro predicate ⟨predicates, facing⟩
  obtain ⟨rest, closes, facing⟩ := facing.backward_kind closes' isClose (by decide)
  obtain ⟨closing, takes, _, kept⟩ := take_of_read? closes isClose
  rw [predicates.type] at boolean
  simp only [boolean]
  exact .bind_ok takes ⟨sources.nested predicates _ _, kept ▸ facing⟩

end Phrase.Backward

/-! ## Whole derivations -/

/-- What stands in a query with references is read in the one with literals too, and the trees are
alike, or the reader fails for a literal. -/
theorem Reads.backward {phrase : Phrase ρ} {text' rest' : List Char}
    (derivation : Reads now phrase text' rest') : phrase.Backward exchange now text' rest' := by
  induction derivation with
  | noSuffix next' other' =>
      intro depth base text alike facing
      obtain ⟨word, after, next, other⟩ := facing.backward_ne next' other'
      exact ⟨base, text, .noSuffix next other, alike, facing⟩
  | suffix point' isDot named' isName resolves' _ ih =>
      exact .suffix point' isDot named' isName resolves' ih
  | expression primary' suffixes' continuation' ihPrimary ihSuffixes ihContinuation =>
      exact .expression primary' suffixes' continuation' ihPrimary ihSuffixes ihContinuation
  | call named' isName opens' isOpen _ builds' ih =>
      exact .call named' isName opens' isOpen builds' ih
  | name named' isName follows' other' resolves =>
      intro outermost cursor begins
      obtain ⟨rest, named, facing⟩ := begins.backward named' isName
      obtain ⟨next, after, follows, other⟩ := facing.backward_ne follows' other'
      exact Reads.primary_ends (.name named isName follows other resolves) facing
  | now reads' isNow =>
      intro outermost cursor begins
      obtain ⟨rest, reads, facing⟩ := begins.backward reads' isNow
      exact Reads.primary_ends (.now reads isNow) facing
  | input reads' isRun resolves =>
      intro outermost cursor begins
      obtain ⟨rest, reads, facing⟩ := begins.backward reads' isRun
      exact Reads.primary_ends (.input reads isRun resolves) facing
  | literal reads' isLiteral carries =>
      intro outermost cursor begins
      obtain ⟨rest, reads, facing⟩ := begins.backward reads' isLiteral
      exact Reads.primary_ends (.literal reads isLiteral carries) facing
  | group opens' isOpen _ closes' isClose ih => exact .group opens' isOpen closes' isClose ih
  | unary reads' isMark prefixes _ builds' ih => exact .unary reads' isMark prefixes builds' ih
  | @noArguments scope _ _ _ _ _ opens' isOpen closes' isClose =>
      intro outermost cursor facing
      obtain ⟨afterOpen, opens, facing⟩ := facing.backward_kind opens' isOpen (by decide)
      obtain ⟨rest, closes, facing⟩ := facing.backward_kind closes' isClose (by decide)
      have derivation : Reads now (.arguments scope []) cursor.rest rest :=
        .noArguments opens isOpen closes isClose
      obtain ⟨read, returns, same, rfl⟩ := parses_of_reads derivation cursor rfl
      rw [returns]
      exact ⟨by rw [same]; exact .nil, facing⟩
  | arguments opens' isOpen follows' other' _ closes' isClose ih =>
      exact .arguments opens' isOpen follows' other' closes' isClose ih
  | last _ follows' other' ih =>
      intro outermost cursor facing
      rw [listed]
      refine (ih outermost cursor facing).bind
        (fun cause blames => ⟨_, List.mem_cons_self, blames⟩) ?_
      rintro value ⟨alike, facing⟩
      obtain ⟨next, after, follows, other⟩ := facing.backward_ne follows' other'
      exact .bind_ok (tryTake_none_of_read? follows other) ⟨.cons alike .nil, facing⟩
  | cons _ separates' isComma _ ihExpression ihListed =>
      exact .cons separates' isComma ihExpression ihListed
  | @stop scope floor _ _ _ _ follows' stops' =>
      intro outermost left cursor alike facing
      obtain ⟨next, after, follows, stops⟩ := facing.backward_stops follows' stops'
      have derivation : Reads now (.continuation scope floor left left) cursor.rest cursor.rest :=
        .stop follows stops
      obtain ⟨read, returns, same, kept⟩ := parses_of_reads derivation cursor rfl
      rw [returns]
      exact ⟨same ▸ alike, kept ▸ facing⟩
  | asked reads' isKeyword _ continuation' ihQuestion ihContinuation =>
      exact .asked reads' isKeyword continuation' ihQuestion ihContinuation
  | operator reads' isMark joins binds _ builds' continuation' ihExpression ihContinuation =>
      exact .operator reads' isMark joins binds builds' continuation' ihExpression ihContinuation
  | question sequence opens' isOpen _ boolean closes' isClose ih =>
      exact .question sequence opens' isOpen boolean closes' isClose ih

end Backward

end RecordQuery
