import RecordQuery.Proofs.Typing.Tree
import RecordQuery.Query.Evaluation

/-!
# Types that no query tells apart

The compiler looks at a type in a few ways only: whether it is a certain type without parts, what
its elements are, and what a name stands for among its members.  A relation of types that answers
all of these alike (`Indistinct`) is not seen by any query.  The trees that are built over such
types differ in the types that stand in them and in nothing that is computed from
(`Expr.Similar`), so they have the same value everywhere (`Expr.Similar.eval_eq`).

Whether something is built at all, and what kind of error there is if not, is the same too.  Such
pairs of results are said to go `Together`.  Each way of building an expression is treated by one
lemma here, and the parser has to use nothing else.
-/

set_option autoImplicit false

namespace RecordQuery

variable {ρ : Type}

/-! ## Pairs of results -/

/-- Both results are there, and related, or both are missing, for related reasons. -/
inductive Together {ε ε' α α' : Type} (reasons : ε → ε' → Prop) (results : α → α' → Prop) :
    Except ε α → Except ε' α' → Prop
  | ok {value : α} {value' : α'} (same : results value value') :
      Together reasons results (.ok value) (.ok value')
  | error {reason : ε} {reason' : ε'} (same : reasons reason reason') :
      Together reasons results (.error reason) (.error reason')

namespace Together

section

variable {ε ε' α α' β β' : Type} {reasons : ε → ε' → Prop} {results : α → α' → Prop}
  {results' : β → β' → Prop} {first : Except ε α} {first' : Except ε' α'}

theorem bind {next : α → Except ε β} {next' : α' → Except ε' β'}
    (together : Together reasons results first first')
    (more : ∀ value value', results value value' →
      Together reasons results' (next value) (next' value')) :
    Together reasons results' (first >>= next) (first' >>= next') := by
  cases together with
  | ok same => exact more _ _ same
  | error same => exact .error same

theorem mono {weaker : α → α' → Prop} (together : Together reasons results first first')
    (weaken : ∀ value value', results value value' → weaker value value') :
    Together reasons weaker first first' := by
  cases together with
  | ok same => exact .ok (weaken _ _ same)
  | error same => exact .error same

theorem map {f : α → β} {f' : α' → β'} (together : Together reasons results first first')
    (more : ∀ value value', results value value' → results' (f value) (f' value')) :
    Together reasons results' (first.map f) (first'.map f') := by
  cases together with
  | ok same => exact .ok (more _ _ same)
  | error same => exact .error same

theorem mapError {δ δ' : Type} {reasons' : δ → δ' → Prop} {f : ε → δ} {f' : ε' → δ'}
    (together : Together reasons results first first')
    (more : ∀ reason reason', reasons reason reason' → reasons' (f reason) (f' reason')) :
    Together reasons' results (first.mapError f) (first'.mapError f') := by
  cases together with
  | ok same => exact .ok same
  | error same => exact .error (more _ _ same)

end

/-- A result goes together with itself. -/
theorem refl {ε α : Type} {reasons : ε → ε → Prop} {results : α → α → Prop} (first : Except ε α)
    (result : ∀ value, first = .ok value → results value value)
    (reason : ∀ reason, first = .error reason → reasons reason reason) :
    Together reasons results first first := by
  cases first with
  | ok value => exact .ok (result value rfl)
  | error fault => exact .error (reason fault rfl)

end Together

/-- What is asked of related items one by one has the same answers. -/
theorem map_eq_map {α α' β : Type} {related : α → α' → Prop} {items : List α} {items' : List α'}
    {ask : α → β} {ask' : α' → β} (pairs : List.Forall₂ related items items')
    (same : ∀ item item', related item item' → ask item = ask' item') :
    items.map ask = items'.map ask' := by
  induction pairs with
  | nil => rfl
  | cons first _ ih => rw [List.map_cons, List.map_cons, same _ _ first, ih]

/-- Two causes are of the same kind. -/
def Cause.Alike (cause cause' : Cause) : Prop := cause.kind = cause'.kind

/-! ## Types -/

/-- Two members are read in the same way, and their types are related. -/
structure Field.Similar (alike : ValueType ρ → ValueType ρ → Prop) (read read' : Member ρ) :
    Prop where
  readers : read.read = read'.read
  types : alike read.type read'.type

/-- Related types are the same for a query that asks for members by some of the names only. -/
structure Indistinct (names : String → Prop) (alike : ValueType ρ → ValueType ρ → Prop) :
    Prop where
  scalar : ∀ {type : ValueType ρ}, type.Scalar → alike type type
  eq_of_scalar : ∀ {type type' : ValueType ρ}, alike type type' → type.Scalar ∨ type'.Scalar →
    type = type'
  element : ∀ {type type' : ValueType ρ}, alike type type' →
    Option.Rel alike type.element? type'.element?
  member : ∀ {type type' : ValueType ρ} {name : String}, alike type type' → names name →
    Together Cause.Alike (Field.Similar alike) (type.resolveMember name)
      (type'.resolveMember name)

namespace Indistinct

variable {names : String → Prop} {alike : ValueType ρ → ValueType ρ → Prop}
  {type type' : ValueType ρ}

/-- Equal types are not told apart. -/
theorem eq (names : String → Prop) : Indistinct names (@Eq (ValueType ρ)) where
  scalar _ := rfl
  eq_of_scalar same _ := same
  element := by
    rintro type _ rfl
    cases type.element? with
    | none => exact .none
    | some element => exact .some rfl
  member := by
    rintro type _ name rfl _
    exact .refl _ (fun _ _ => ⟨rfl, rfl⟩) fun _ _ => rfl

/-- What has one answer for all types with parts has the same answer for related types. -/
theorem congr {β : Type} (indistinct : Indistinct names alike) (types : alike type type')
    (ask : ValueType ρ → β) (answer : β)
    (parts : ∀ type : ValueType ρ, ¬ type.Scalar → ask type = answer) : ask type = ask type' := by
  by_cases scalar : type.Scalar ∨ type'.Scalar
  · rw [indistinct.eq_of_scalar types scalar]
  · obtain ⟨left, right⟩ := not_or.1 scalar
    rw [parts type left, parts type' right]

theorem isBoolean (indistinct : Indistinct names alike) (types : alike type type') :
    type.isBoolean = type'.isBoolean := by
  refine indistinct.congr types _ false fun type parts => ?_
  refine Bool.eq_false_iff.2 fun boolean => parts ?_
  rw [ValueType.isBoolean_eq_true_iff.1 boolean]
  exact .boolean

theorem isString (indistinct : Indistinct names alike) (types : alike type type') :
    type.isString = type'.isString := by
  refine indistinct.congr types _ false fun type parts => ?_
  refine Bool.eq_false_iff.2 fun text => parts ?_
  rw [ValueType.isString_eq_true_iff.1 text]
  exact .string

theorem same_string (indistinct : Indistinct names alike) (types : alike type type') :
    type.same .string = type'.same .string := by
  refine indistinct.congr types (·.same .string) false fun type parts => ?_
  refine Bool.eq_false_iff.2 fun text => parts ?_
  rw [ValueType.same_string_eq_true_iff.1 text]
  exact .string

theorem takes (indistinct : Indistinct names alike) (types : alike type type') (op : UnaryOp) :
    op.takes type = op.takes type' :=
  indistinct.congr types op.takes false fun _ parts =>
    Bool.eq_false_iff.2 fun takes => parts (UnaryOp.scalar_of_takes takes)

theorem resultType? {right right' : ValueType ρ} (indistinct : Indistinct names alike)
    (lefts : alike type type') (rights : alike right right') (op : BinaryOp) :
    op.resultType? type right = op.resultType? type' right' := by
  have left := indistinct.congr lefts (op.resultType? · right) none fun _ parts =>
    Option.eq_none_iff_forall_ne_some.2 fun _ gives => parts (BinaryOp.scalar_operands gives).1
  have right := indistinct.congr rights (op.resultType? type') none fun _ parts =>
    Option.eq_none_iff_forall_ne_some.2 fun _ gives => parts (BinaryOp.scalar_operands gives).2
  exact left.trans right

end Indistinct

/-! ## Trees -/

namespace Expr

/-- The trees differ in the types that stand in them only, and these are related.  Members are
read in the same way. -/
inductive Similar (alike : ValueType ρ → ValueType ρ → Prop) : Expr ρ → Expr ρ → Prop
  | literal {value : Literal} : Similar alike (.literal value) (.literal value)
  | input {depth : Nat} {type type' : ValueType ρ} (types : alike type type') :
      Similar alike (.input depth type) (.input depth type')
  | member {base base' : Expr ρ} {read read' : Member ρ} (bases : Similar alike base base')
      (reads : read.Similar alike read') : Similar alike (.member base read) (.member base' read')
  | unary {op : UnaryOp} {operand operand' : Expr ρ} (operands : Similar alike operand operand') :
      Similar alike (.unary op operand) (.unary op operand')
  | binary {op : BinaryOp} {type : ValueType ρ} {left left' right right' : Expr ρ}
      (scalar : type.Scalar) (lefts : Similar alike left left')
      (rights : Similar alike right right') :
      Similar alike (.binary op type left right) (.binary op type left' right')
  | pattern {op : PatternOp} {regex? : Option Regex.Pattern} {left left' right right' : Expr ρ}
      (lefts : Similar alike left left') (rights : Similar alike right right') :
      Similar alike (.pattern op regex? left right) (.pattern op regex? left' right')
  | call {function : Function} {arguments arguments' : List (Expr ρ)}
      (count : arguments.length = arguments'.length)
      (pairs : ∀ {argument argument' : Expr ρ}, (argument, argument') ∈ arguments.zip arguments' →
        Similar alike argument argument') :
      Similar alike (.call function arguments) (.call function arguments')
  | nested {quantifier : Quantifier} {depth : Nat} {source source' predicate predicate' : Expr ρ}
      (sources : Similar alike source source') (predicates : Similar alike predicate predicate') :
      Similar alike (.nested quantifier depth source predicate)
        (.nested quantifier depth source' predicate')

theorem evalAll_congr [BEq ρ] {arguments arguments' : List (Expr ρ)}
    (same : List.Forall₂ (fun argument argument' : Expr ρ => argument.eval = argument'.eval)
      arguments arguments') : evalAll arguments = evalAll arguments' := by
  induction same with
  | nil => rfl
  | cons first _ ih => rw [evalAll, evalAll, first, ih]

namespace Similar

variable {names : String → Prop} {alike : ValueType ρ → ValueType ρ → Prop} {whole whole' : Expr ρ}

/-- What an expression computes does not depend on the types in it. -/
theorem eval_eq [BEq ρ] (similar : whole.Similar alike whole') : whole.eval = whole'.eval := by
  induction similar with
  | literal => rfl
  | input => rw [eval, eval]
  | @member _ _ read read' _ reads ih =>
      have readers : read.readFrom = read'.readFrom := by
        funext value
        cases value <;> simp only [Field.readFrom, reads.readers]
      rw [eval, eval, ih, readers]
  | unary _ ih => rw [eval, eval, ih]
  | @binary op _ _ _ _ _ _ _ _ ihLeft ihRight =>
      cases op <;> simp only [eval, ihLeft, ihRight]
  | @pattern _ regex? _ _ _ _ _ _ ihLeft ihRight =>
      cases regex? <;> simp only [eval, ihLeft, ihRight]
  | call count _ ih =>
      rw [eval, eval, evalAll_congr (List.forall₂_iff_zip.2 ⟨count, ih⟩)]
  | nested _ _ ihSource ihPredicate => rw [eval, eval, ihSource, ihPredicate]

theorem holdsOn_eq [BEq ρ] (similar : whole.Similar alike whole') :
    whole.holdsOn = whole'.holdsOn := by
  funext input
  rw [holdsOn, holdsOn, valueOn, valueOn, similar.eval_eq]

theorem literal?_eq (similar : whole.Similar alike whole') : whole.literal? = whole'.literal? := by
  cases similar <;> rfl

theorem types (indistinct : Indistinct names alike) (similar : whole.Similar alike whole') :
    alike whole.type whole'.type := by
  induction similar with
  | literal => exact indistinct.scalar (Literal.scalar_type _)
  | input types => exact types
  | member _ reads => exact reads.types
  | unary _ ih => exact ih
  | binary scalar => exact indistinct.scalar scalar
  | pattern => exact indistinct.scalar .boolean
  | call => exact indistinct.scalar (Function.scalar_resultType _)
  | nested => exact indistinct.scalar (Quantifier.scalar_resultType _)

end Similar

/-! ## Builders of expressions -/

section Builders

variable {names : String → Prop} {alike : ValueType ρ → ValueType ρ → Prop}

/-- Both trees are built, and similar, or neither is, and the errors are of the same kind. -/
abbrev BuiltTogether (alike : ValueType ρ → ValueType ρ → Prop) :
    Except Cause (Expr ρ) → Except Cause (Expr ρ) → Prop :=
  Together Cause.Alike (Similar alike)

theorem Similar.ofMember (indistinct : Indistinct names alike) {base base' : Expr ρ} {name : String}
    (bases : base.Similar alike base') (named : names name) :
    BuiltTogether alike (base.ofMember name) (base'.ofMember name) :=
  (indistinct.member (bases.types indistinct) named).map fun _ _ reads => .member bases reads

theorem Similar.ofUnary (indistinct : Indistinct names alike) {operand operand' : Expr ρ}
    (operands : operand.Similar alike operand') (op : UnaryOp) (symbol : String) :
    BuiltTogether alike (Expr.ofUnary op symbol operand) (Expr.ofUnary op symbol operand') := by
  have takes := indistinct.takes (operands.types indistinct) op
  unfold Expr.ofUnary
  rw [takes]
  split
  · exact .ok (.unary operands)
  · exact .error rfl

theorem Similar.readRegex {right right' : Expr ρ} (rights : right.Similar alike right')
    (op : PatternOp) : Expr.readRegex op right = Expr.readRegex op right' := by
  rw [Expr.readRegex, Expr.readRegex, rights.literal?_eq]

theorem Similar.ofBinary (indistinct : Indistinct names alike) {left left' right right' : Expr ρ}
    (lefts : left.Similar alike left') (rights : right.Similar alike right')
    (entry : BinaryEntry) :
    BuiltTogether alike (Expr.ofBinary entry left right) (Expr.ofBinary entry left' right') := by
  have left_types := lefts.types indistinct
  have right_types := rights.types indistinct
  unfold Expr.ofBinary
  cases entry.operator with
  | value op =>
      simp only [indistinct.resultType? left_types right_types op]
      split
      · next type gives => exact .ok (.binary (BinaryOp.scalar_of_resultType? gives) lefts rights)
      · exact .error rfl
  | pattern op =>
      simp only [indistinct.isString left_types, indistinct.isString right_types,
        rights.readRegex op]
      split
      · have read : Together Cause.Alike Eq (Expr.readRegex op right')
            (Expr.readRegex op right') := .refl _ (fun _ _ => rfl) fun _ _ => rfl
        refine read.map ?_
        rintro regex? _ rfl
        exact .pattern lefts rights
      · exact .error rfl

theorem mapM_literal?_eq (exprs : List (Expr ρ)) :
    exprs.mapM literal? = (exprs.map literal?).mapM id := by
  induction exprs with
  | nil => rfl
  | cons expr exprs ih => rw [List.map_cons, List.mapM_cons, List.mapM_cons, ih, id]

theorem Similar.ofCall (indistinct : Indistinct names alike) {arguments arguments' : List (Expr ρ)}
    (similar : List.Forall₂ (Similar alike) arguments arguments') (name : String) :
    BuiltTogether alike (Expr.ofCall name arguments) (Expr.ofCall name arguments') := by
  have misfits : arguments.any (!·.type.same .string) = arguments'.any (!·.type.same .string) := by
    have answers := map_eq_map similar fun _ _ same =>
      congrArg not (indistinct.same_string (same.types indistinct))
    have results := congrArg (List.any · id) answers
    simpa only [List.any_map, Function.id_comp] using results
  have literals : arguments.mapM literal? = arguments'.mapM literal? := by
    rw [mapM_literal?_eq, mapM_literal?_eq, map_eq_map similar fun _ _ same => same.literal?_eq]
  unfold Expr.ofCall
  rw [similar.length_eq, literals]
  split
  · exact .error rfl
  · next function _ =>
    rw [← List.isSome_find?, ← List.isSome_find?] at misfits
    cases misfit : arguments.find? (!·.type.same .string) with
    | some argument =>
        rw [misfit] at misfits
        obtain ⟨argument', misfit'⟩ := Option.isSome_iff_exists.1 misfits.symm
        simp only [Function.parameterType, misfit, misfit']
        exact .error rfl
    | none =>
        have fit' : arguments'.find? (!·.type.same .string) = none := by
          simp [← Option.not_isSome_iff_eq_none, ← misfits, misfit]
        simp only [Function.parameterType, misfit, fit']
        split
        · refine .refl _ (fun whole builds => ?_) fun _ _ => rfl
          obtain ⟨value, rfl⟩ := literal_of_fold builds
          exact .literal
        · obtain ⟨count, pairs⟩ := List.forall₂_iff_zip.1 similar
          exact .ok (.call count pairs)

end Builders

end Expr

/-! ## Scopes -/

/-- There are as many inputs in both scopes, and their types are related. -/
structure Scope.Similar (alike : ValueType ρ → ValueType ρ → Prop) (scope scope' : Scope ρ) :
    Prop where
  current : alike scope.current scope'.current
  outer : List.Forall₂ alike scope.outer scope'.outer

namespace Scope.Similar

variable {alike : ValueType ρ → ValueType ρ → Prop} {scope scope' : Scope ρ}

theorem depth_eq (similar : scope.Similar alike scope') : scope.depth = scope'.depth :=
  similar.outer.length_eq

theorem enter {element element' : ValueType ρ} (similar : scope.Similar alike scope')
    (elements : alike element element') :
    (scope.enter element).Similar alike (scope'.enter element') :=
  ⟨elements, .cons similar.current similar.outer⟩

theorem input (similar : scope.Similar alike scope') : scope.input.Similar alike scope'.input := by
  rw [Scope.input, Scope.input, similar.depth_eq]
  exact .input similar.current

/-- A run of `$` that asks for an input on one side asks for one on the other side. -/
theorem inputOf (similar : scope.Similar alike scope') (lexeme : String) :
    Expr.BuiltTogether alike (scope.inputOf lexeme) (scope'.inputOf lexeme) := by
  have related : List.Forall₂ alike (scope.current :: scope.outer)
      (scope'.current :: scope'.outer) := .cons similar.current similar.outer
  rw [Scope.inputOf, Scope.inputOf, similar.depth_eq]
  generalize scope.current :: scope.outer = types at related
  generalize scope'.current :: scope'.outer = types' at related
  by_cases inside : lexeme.toList.length - 1 < types.length
  · have inside' := related.length_eq ▸ inside
    rw [List.getElem?_eq_getElem inside, List.getElem?_eq_getElem inside']
    exact .ok (.input (related.get inside inside'))
  · have outside' := related.length_eq ▸ inside
    rw [List.getElem?_eq_none (Nat.le_of_not_lt inside),
      List.getElem?_eq_none (Nat.le_of_not_lt outside')]
    exact .error rfl

end Scope.Similar

end RecordQuery
