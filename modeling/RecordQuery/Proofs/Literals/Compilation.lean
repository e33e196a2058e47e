import RecordQuery.Proofs.Literals.Exchange
import RecordQuery.Proofs.Scoping.Refinement

/-!
# Queries with exchanged literals

Of two queries that face each other, the one with references compiles if the one with literals
does, and the trees are alike (`Reads.forward`).  The proof is by induction on the derivation of the
first one.  Every rule is used again on the other side, with the same words.  The one exception is
an expression that begins with an exchanged literal: there the other side has a run of `$`, which
is the input of the query, and one member of it (`Exchange.reads_reference` for the other
direction).

Since a literal is one word and a reference is three, the texts do not face each other within a
reference.  So a primary expression is only looked at where its first word is on both sides
(`Exchange.Begins`), and the exchange is made one level above, where the members of the primary
expression are in sight.
-/

set_option autoImplicit false

namespace RecordQuery

open Word (read?)

variable {ρ : Type}

/-! ## References -/

/-- The input of the query, which is outside of all questions, has this type. -/
def Scope.OutermostIs (root : ValueType ρ) (scope : Scope ρ) : Prop :=
  (scope.current :: scope.outer)[scope.depth]? = some root

theorem Scope.OutermostIs.enter {root : ValueType ρ} {scope : Scope ρ}
    (outermost : scope.OutermostIs root) (element : ValueType ρ) :
    (scope.enter element).OutermostIs root := outermost

/-- A run of `$` that reaches out of all questions is the input of the query. -/
theorem Scope.OutermostIs.inputOf_eq_ok_iff {root : ValueType ρ} {scope : Scope ρ}
    {lexeme : String} {whole : Expr ρ} (outermost : scope.OutermostIs root)
    (levels : lexeme.toList.length = scope.depth + 1) :
    scope.inputOf lexeme = .ok whole ↔ .input 0 root = whole := by
  have found : (scope.current :: scope.outer)[lexeme.toList.length - 1]? = some root := by
    rw [levels]
    exact outermost
  rw [Scope.inputOf_eq_ok_iff, found, levels]
  simp

namespace Reads

variable {now : DateTime} {scope : Scope ρ} {base whole : Expr ρ} {text rest after : List Char}
  {word : Word}

theorem literal_of_word (derivation : Reads now (.primary scope whole) text rest)
    (reads : read? text = some (word, after)) (isLiteral : word.kind = .literal) :
    rest = after ∧ ∃ value, word.literal? = some value ∧ whole = .literal value := by
  cases derivation with
  | literal found _ carries =>
      cases reads.symm.trans found
      exact ⟨rfl, _, carries, rfl⟩
  | call found other | name found other | now found other | input found other
  | group found other | unary found other =>
      cases reads.symm.trans found
      rw [isLiteral] at other
      cases other

/-- No member is read off what has no members. -/
theorem suffixes_of_no_members (derivation : Reads now (.suffixes base whole) text rest)
    (none : base.type.members = []) :
    rest = text ∧ whole = base ∧
      ∃ word after, read? text = some (word, after) ∧ word.kind ≠ .mark .dot := by
  cases derivation with
  | noSuffix next other => exact ⟨rfl, rfl, _, _, next, other⟩
  | suffix _ _ _ _ resolves =>
      obtain ⟨found, resolved, _⟩ := Expr.ofMember_eq_ok_iff.1 resolves
      have listed := ValueType.mem_of_resolveMember resolved
      rw [none] at listed
      cases listed

end Reads

namespace Exchange

variable (exchange : Exchange ρ)

/-- The first word of two texts is the same. -/
def Begins (depth : Nat) (left right : List Char) : Prop :=
  ∃ word after after', read? left = some (word, after) ∧ read? right = some (word, after') ∧
    exchange.Facing (word.kind.level depth) after after'

variable {exchange} {depth : Nat} {left right after after' : List Char} {word : Word}
  {kind : TokenKind}

theorem Begins.forward (begins : exchange.Begins depth left right)
    (reads : read? left = some (word, after)) (same : word.kind = kind) :
    ∃ after', read? right = some (word, after') ∧
      exchange.Facing (kind.level depth) after after' := by
  obtain ⟨first, behind, behind', found, found', facing⟩ := begins
  cases reads.symm.trans found
  exact ⟨behind', found', same ▸ facing⟩

theorem Begins.backward (begins : exchange.Begins depth left right)
    (reads : read? right = some (word, after')) (same : word.kind = kind) :
    ∃ after, read? left = some (word, after) ∧
      exchange.Facing (kind.level depth) after after' := by
  obtain ⟨first, behind, behind', found, found', facing⟩ := begins
  cases reads.symm.trans found'
  exact ⟨behind, found, same ▸ facing⟩

theorem ofMember_reference {name : String} {whole : Expr ρ} (same : name = exchange.name) :
    (Expr.input 0 exchange.root).ofMember name = .ok whole ↔ exchange.reference = whole := by
  subst same
  rw [Expr.ofMember_eq_ok_iff]
  constructor
  · rintro ⟨found, resolved, rfl⟩
    cases exchange.resolves.symm.trans resolved
    rfl
  · exact fun built => ⟨exchange.member, exchange.resolves, built⟩

/-- Where a reference stands, its tree is read, and no member of it. -/
theorem reads_reference {now : DateTime} {scope : Scope ρ} {first whole : Expr ρ}
    {text afterFirst rest : List Char} (outermost : scope.OutermostIs exchange.root)
    (reference : ReadsReference exchange.name scope.depth text)
    (primary : Reads now (.primary scope first) text afterFirst)
    (suffixes : Reads now (.suffixes first whole) afterFirst rest) :
    whole = exchange.reference ∧ rest = reference.after ∧
      ∃ word after, read? reference.after = some (word, after) ∧ word.kind ≠ .mark .dot := by
  obtain ⟨rfl, resolves⟩ := primary.inputOf_of_run reference.runs reference.isRun
  obtain rfl := (outermost.inputOf_eq_ok_iff reference.levels).1 resolves
  cases suffixes with
  | noSuffix next other =>
      cases reference.points.symm.trans next
      exact absurd reference.isDot other
  | suffix point _ named _ owns more =>
      cases reference.points.symm.trans point
      cases reference.named.symm.trans named
      obtain rfl := (ofMember_reference reference.lexeme).1 owns
      have none : exchange.reference.type.members = [] := by
        rw [type_reference]
        rfl
      obtain ⟨rfl, rfl, follows⟩ := more.suffixes_of_no_members none
      exact ⟨rfl, rfl, follows⟩

end Exchange

/-! ## What stands in one query stands in the other -/

/-- The phrase is found in a text that faces the text of the derivation. -/
def Phrase.Forward [BEq ρ] (exchange : Exchange ρ) (now : DateTime) (text rest : List Char) :
    Phrase ρ → Prop
  | .suffixes base whole =>
      ∀ (depth : Nat) (base' : Expr ρ) (text' : List Char), exchange.Alike base base' →
        exchange.Facing depth text text' →
        ∃ whole' rest', Reads now (.suffixes base' whole') text' rest' ∧
          exchange.Alike whole whole' ∧ exchange.Facing depth rest rest'
  | .expression scope floor whole =>
      scope.OutermostIs exchange.root →
        ∀ text' : List Char, exchange.Facing scope.depth text text' →
        ∃ whole' rest', Reads now (.expression scope floor whole') text' rest' ∧
          exchange.Alike whole whole' ∧ exchange.Facing scope.depth rest rest'
  | .primary scope whole =>
      scope.OutermostIs exchange.root →
        ∀ text' : List Char, exchange.Begins scope.depth text text' →
        ∃ whole' rest', Reads now (.primary scope whole') text' rest' ∧
          exchange.Alike whole whole' ∧ exchange.Facing scope.depth rest rest'
  | .arguments scope values =>
      scope.OutermostIs exchange.root →
        ∀ text' : List Char, exchange.Facing scope.depth text text' →
        ∃ values' rest', Reads now (.arguments scope values') text' rest' ∧
          List.Forall₂ exchange.Alike values values' ∧ exchange.Facing scope.depth rest rest'
  | .listed scope values =>
      scope.OutermostIs exchange.root →
        ∀ text' : List Char, exchange.Facing scope.depth text text' →
        ∃ values' rest', Reads now (.listed scope values') text' rest' ∧
          List.Forall₂ exchange.Alike values values' ∧ exchange.Facing scope.depth rest rest'
  | .continuation scope floor left whole =>
      scope.OutermostIs exchange.root →
        ∀ (left' : Expr ρ) (text' : List Char), exchange.Alike left left' →
        exchange.Facing scope.depth text text' →
        ∃ whole' rest', Reads now (.continuation scope floor left' whole') text' rest' ∧
          exchange.Alike whole whole' ∧ exchange.Facing scope.depth rest rest'
  | .question scope keyword source whole =>
      scope.OutermostIs exchange.root →
        ∀ (source' : Expr ρ) (text' : List Char), exchange.Alike source source' →
        exchange.Facing scope.depth text text' →
        ∃ whole' rest', Reads now (.question scope keyword source' whole') text' rest' ∧
          exchange.Alike whole whole' ∧ exchange.Facing scope.depth rest rest'

theorem Mark.level_of_unary? {mark : Mark} {op : UnaryOp} (prefixes : mark.unary? = some op)
    (depth : Nat) : (TokenKind.mark mark).level depth = depth := by
  cases mark <;> first | rfl | cases prefixes

theorem Mark.level_of_binary? {mark : Mark} {entry : BinaryEntry}
    (joins : mark.binary? = some entry) (depth : Nat) :
    (TokenKind.mark mark).level depth = depth := by
  cases mark <;> first | rfl | cases joins

section Forward

variable [BEq ρ] {exchange : Exchange ρ} {now : DateTime}

/-- The first words agree, and so do the parts; or a literal begins the expression where the other
text has a run of `$`, a dot and a member, and it has no suffixes. -/
theorem Phrase.Forward.expression {scope : Scope ρ} {floor : Int} {first left whole : Expr ρ}
    {text afterFirst afterLeft rest : List Char}
    (primary : Reads now (.primary scope first) text afterFirst)
    (suffixes : Reads now (.suffixes first left) afterFirst afterLeft)
    (firsts : (Phrase.primary scope first).Forward exchange now text afterFirst)
    (lefts : (Phrase.suffixes first left).Forward exchange now afterFirst afterLeft)
    (more : (Phrase.continuation scope floor left whole).Forward exchange now afterLeft rest) :
    (Phrase.expression scope floor whole).Forward exchange now text rest := by
  intro outermost text' facing
  obtain ⟨word, after, reads⟩ := primary.exists_first
  rcases facing.forward reads with
    ⟨after', reads', facing⟩ | ⟨isLiteral, carries, reference, facing⟩
  · obtain ⟨first', text', primary', alike, facing⟩ :=
      firsts outermost text' ⟨word, after, after', reads, reads', facing⟩
    obtain ⟨left', text', suffixes', alike, facing⟩ := lefts _ first' text' alike facing
    obtain ⟨whole', rest', continuation', alike, facing⟩ :=
      more outermost left' text' alike facing
    exact ⟨whole', rest', .expression primary' suffixes' continuation', alike, facing⟩
  · obtain ⟨rfl, value, carries', rfl⟩ := primary.literal_of_word reads isLiteral
    cases carries.symm.trans carries'
    obtain ⟨rfl, rfl, next, behind, follows, other⟩ := suffixes.suffixes_of_no_members rfl
    obtain ⟨next', behind', follows', other'⟩ := facing.forward_ne follows other
    obtain ⟨whole', rest', continuation', alike, facing⟩ := more outermost _ _ .exchanged facing
    exact ⟨whole', rest', .expression
      (.input reference.runs reference.isRun
        ((outermost.inputOf_eq_ok_iff reference.levels).2 rfl))
      (.suffix reference.points reference.isDot reference.named reference.isName
        ((Exchange.ofMember_reference reference.lexeme).2 rfl) (.noSuffix follows' other'))
      continuation', alike, facing⟩

/-- What stands in a query with literals stands in the one with references, and the trees are
alike. -/
theorem Reads.forward {phrase : Phrase ρ} {text rest : List Char}
    (derivation : Reads now phrase text rest) : phrase.Forward exchange now text rest := by
  induction derivation with
  | noSuffix next other =>
      intro depth base' text' alike facing
      obtain ⟨word', after', next', other'⟩ := facing.forward_ne next other
      exact ⟨base', text', .noSuffix next' other', alike, facing⟩
  | suffix point isDot named isName resolves more ih =>
      intro depth base' text' alike facing
      obtain ⟨afterDot', point', facing⟩ := facing.forward_kind point isDot nofun
      obtain ⟨afterName', named', facing⟩ := facing.forward_kind named isName nofun
      obtain ⟨found, resolved, rfl⟩ := Expr.ofMember_eq_ok_iff.1 resolves
      rw [← alike.type] at resolved
      have resolves' := Expr.ofMember_eq_ok_iff.2 ⟨found, resolved, rfl⟩
      obtain ⟨whole', rest', more', alike, facing⟩ :=
        ih depth _ afterName' (alike.member found) facing
      exact ⟨whole', rest', .suffix point' isDot named' isName resolves' more', alike, facing⟩
  | expression primary suffixes _ ihPrimary ihSuffixes ihContinuation =>
      exact .expression primary suffixes ihPrimary ihSuffixes ihContinuation
  | call named isName opens isOpen arguments builds ih =>
      intro outermost text' begins
      obtain ⟨afterName', named', facing⟩ := begins.forward named isName
      obtain ⟨after', opens', _⟩ := facing.forward_kind opens isOpen nofun
      obtain ⟨values', rest', arguments', alike, facing⟩ := ih outermost afterName' facing
      obtain ⟨whole', builds', alike⟩ := Exchange.ofCall_forward alike builds
      exact ⟨whole', rest', .call named' isName opens' isOpen arguments' builds', alike, facing⟩
  | name named isName follows other resolves =>
      intro outermost text' begins
      obtain ⟨rest', named', facing⟩ := begins.forward named isName
      obtain ⟨next', after', follows', other'⟩ := facing.forward_ne follows other
      exact ⟨_, rest', .name named' isName follows' other' resolves, .refl _, facing⟩
  | now reads isNow =>
      intro outermost text' begins
      obtain ⟨rest', reads', facing⟩ := begins.forward reads isNow
      exact ⟨_, rest', .now reads' isNow, .refl _, facing⟩
  | input reads isRun resolves =>
      intro outermost text' begins
      obtain ⟨rest', reads', facing⟩ := begins.forward reads isRun
      exact ⟨_, rest', .input reads' isRun resolves, .refl _, facing⟩
  | literal reads isLiteral carries =>
      intro outermost text' begins
      obtain ⟨rest', reads', facing⟩ := begins.forward reads isLiteral
      exact ⟨_, rest', .literal reads' isLiteral carries, .refl _, facing⟩
  | group opens isOpen expression closes isClose ih =>
      intro outermost text' begins
      obtain ⟨afterOpen', opens', facing⟩ := begins.forward opens isOpen
      obtain ⟨inner', afterInner', expression', alike, facing⟩ := ih outermost afterOpen' facing
      obtain ⟨rest', closes', facing⟩ := facing.forward_kind closes isClose nofun
      exact ⟨inner', rest', .group opens' isOpen expression' closes' isClose, alike, facing⟩
  | unary reads isMark prefixes expression builds ih =>
      intro outermost text' begins
      obtain ⟨afterMark', reads', facing⟩ := begins.forward reads isMark
      rw [Mark.level_of_unary? prefixes] at facing
      obtain ⟨operand', rest', expression', alike, facing⟩ := ih outermost afterMark' facing
      obtain ⟨whole', builds', alike⟩ := Exchange.ofUnary_forward alike builds
      exact ⟨whole', rest', .unary reads' isMark prefixes expression' builds', alike, facing⟩
  | noArguments opens isOpen closes isClose =>
      intro outermost text' facing
      obtain ⟨afterOpen', opens', facing⟩ := facing.forward_kind opens isOpen nofun
      obtain ⟨rest', closes', facing⟩ := facing.forward_kind closes isClose nofun
      exact ⟨[], rest', .noArguments opens' isOpen closes' isClose, .nil, facing⟩
  | arguments opens isOpen follows other listed closes isClose ih =>
      intro outermost text' facing
      obtain ⟨afterOpen', opens', facing⟩ := facing.forward_kind opens isOpen nofun
      obtain ⟨next', after', follows', other'⟩ := facing.forward_ne follows other
      obtain ⟨values', afterValues', listed', alike, facing⟩ := ih outermost afterOpen' facing
      obtain ⟨rest', closes', facing⟩ := facing.forward_kind closes isClose nofun
      exact ⟨values', rest',
        .arguments opens' isOpen follows' other' listed' closes' isClose, alike, facing⟩
  | last expression follows other ih =>
      intro outermost text' facing
      obtain ⟨value', rest', expression', alike, facing⟩ := ih outermost text' facing
      obtain ⟨next', after', follows', other'⟩ := facing.forward_ne follows other
      exact ⟨[value'], rest', .last expression' follows' other', .cons alike .nil, facing⟩
  | cons expression separates isComma listed ihExpression ihListed =>
      intro outermost text' facing
      obtain ⟨value', afterValue', expression', alike, facing⟩ :=
        ihExpression outermost text' facing
      obtain ⟨afterComma', separates', facing⟩ := facing.forward_kind separates isComma nofun
      obtain ⟨values', rest', listed', others, facing⟩ := ihListed outermost afterComma' facing
      exact ⟨value' :: values', rest', .cons expression' separates' isComma listed',
        .cons alike others, facing⟩
  | stop follows stops =>
      intro outermost left' text' alike facing
      obtain ⟨next', after', follows', stops'⟩ := facing.forward_stops follows stops
      exact ⟨left', text', .stop follows' stops', alike, facing⟩
  | asked reads isKeyword question continuation ihQuestion ihContinuation =>
      intro outermost left' text' alike facing
      obtain ⟨afterWord', reads', facing⟩ := facing.forward_kind reads isKeyword nofun
      obtain ⟨answered', afterBlock', question', alike, facing⟩ :=
        ihQuestion outermost left' afterWord' alike facing
      obtain ⟨whole', rest', continuation', alike, facing⟩ :=
        ihContinuation outermost answered' afterBlock' alike facing
      exact ⟨whole', rest', .asked reads' isKeyword question' continuation', alike, facing⟩
  | operator reads isMark joins binds expression builds continuation ihExpression ihContinuation =>
      intro outermost left' text' lefts facing
      obtain ⟨afterMark', reads', facing⟩ := facing.forward_kind reads isMark nofun
      rw [Mark.level_of_binary? joins] at facing
      obtain ⟨right', afterRight', expression', rights, facing⟩ :=
        ihExpression outermost afterMark' facing
      obtain ⟨joined', builds', alike⟩ := Exchange.ofBinary_forward lefts rights builds
      obtain ⟨whole', rest', continuation', alike, facing⟩ :=
        ihContinuation outermost joined' afterRight' alike facing
      exact ⟨whole', rest', .operator reads' isMark joins binds expression' builds' continuation',
        alike, facing⟩
  | question sequence opens isOpen expression boolean closes isClose ih =>
      intro outermost source' text' sources facing
      obtain ⟨afterOpen', opens', facing⟩ := facing.forward_kind opens isOpen nofun
      obtain ⟨predicate', afterBlock', expression', predicates, facing⟩ :=
        ih (outermost.enter _) afterOpen' facing
      obtain ⟨rest', closes', facing⟩ := facing.forward_kind closes isClose nofun
      rw [← sources.type] at sequence
      rw [← predicates.type] at boolean
      exact ⟨_, rest', .question sequence opens' isOpen expression' boolean closes' isClose,
        sources.nested predicates _ _, facing⟩

end Forward

end RecordQuery
