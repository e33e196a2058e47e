import RecordQuery.Proofs.Scoping.Environment

/-!
# Queries under more inputs

A text that is read with more inputs around it gives the same tree, except that every depth in it
is greater by the number of these inputs (`Reads.under`).  Nothing else of a tree depends on
depths: not its types, not the literals it is made of, and so not what the builders of
expressions say to it.

The shifted tree has the same value in the larger environment that the tree had in its own
(`Expr.Typed.valueIn_shift`).  Both proofs go through questions in the tree, where the environment
has one element more, at the near end, and the inputs around are still at the far end.
-/

set_option autoImplicit false

namespace RecordQuery

variable {ρ : Type}

/-! ## Shifted trees -/

namespace Expr

mutual

/-- The expression with so many inputs more around it. -/
def shift (levels : Nat) : Expr ρ → Expr ρ
  | .literal value => .literal value
  | .input depth type => .input (depth + levels) type
  | .member base read => .member (shift levels base) read
  | .unary op operand => .unary op (shift levels operand)
  | .binary op type left right => .binary op type (shift levels left) (shift levels right)
  | .pattern op regex? left right => .pattern op regex? (shift levels left) (shift levels right)
  | .call function arguments => .call function (shiftAll levels arguments)
  | .nested quantifier depth source predicate =>
      .nested quantifier (depth + levels) (shift levels source) (shift levels predicate)

/-- The expressions with so many inputs more around them. -/
def shiftAll (levels : Nat) : List (Expr ρ) → List (Expr ρ)
  | [] => []
  | expr :: exprs => shift levels expr :: shiftAll levels exprs

end

theorem shiftAll_eq_map (levels : Nat) (exprs : List (Expr ρ)) :
    shiftAll levels exprs = exprs.map (shift levels) := by
  induction exprs with
  | nil => rfl
  | cons expr exprs ih => rw [shiftAll, ih, List.map_cons]

@[simp] theorem type_shift (levels : Nat) : ∀ expr : Expr ρ, (expr.shift levels).type = expr.type
  | .unary _ operand => type_shift levels operand
  | .literal _ | .input _ _ | .member _ _ | .binary _ _ _ _ | .pattern _ _ _ _ | .call _ _
  | .nested _ _ _ _ => rfl

@[simp] theorem literal?_shift (levels : Nat) (expr : Expr ρ) :
    (expr.shift levels).literal? = expr.literal? := by
  cases expr <;> rfl

/-! ## Builders of shifted trees -/

section Builders

variable (levels : Nat) {whole : Expr ρ}

theorem ofMember_shift {base : Expr ρ} {name : String} (resolves : base.ofMember name = .ok whole) :
    (base.shift levels).ofMember name = .ok (whole.shift levels) := by
  obtain ⟨found, resolved, rfl⟩ := ofMember_eq_ok_iff.1 resolves
  rw [← type_shift levels] at resolved
  exact ofMember_eq_ok_iff.2 ⟨found, resolved, rfl⟩

theorem ofUnary_shift {op : UnaryOp} {symbol : String} {operand : Expr ρ}
    (builds : ofUnary op symbol operand = .ok whole) :
    ofUnary op symbol (operand.shift levels) = .ok (whole.shift levels) := by
  obtain ⟨takes, rfl⟩ := ofUnary_eq_ok_iff.1 builds
  rw [← type_shift levels] at takes
  exact ofUnary_eq_ok_iff.2 ⟨takes, rfl⟩

theorem ofBinary_shift {entry : BinaryEntry} {left right : Expr ρ}
    (builds : ofBinary entry left right = .ok whole) :
    ofBinary entry (left.shift levels) (right.shift levels) = .ok (whole.shift levels) := by
  rcases ofBinary_eq_ok_iff.1 builds with
    ⟨op, type, operator, gives, rfl⟩ | ⟨op, regex?, operator, left_text, right_text, written, rfl⟩
  · refine ofBinary_eq_ok_iff.2 (.inl ⟨op, type, operator, ?_, rfl⟩)
    rw [type_shift, type_shift, gives]
  · refine ofBinary_eq_ok_iff.2 (.inr ⟨op, regex?, operator, ?_, ?_, ?_, rfl⟩)
    · rw [type_shift, left_text]
    · rw [type_shift, right_text]
    · rw [readRegex, literal?_shift, ← written, readRegex]

theorem ofCall_shift {name : String} {arguments : List (Expr ρ)}
    (builds : ofCall name arguments = .ok whole) :
    ofCall name (arguments.map (shift levels)) = .ok (whole.shift levels) := by
  have literals : (arguments.map (shift levels)).mapM literal? = arguments.mapM literal? := by
    rw [List.mapM_map]
    exact congrArg (arguments.mapM ·) (funext (literal?_shift levels))
  unfold ofCall at builds ⊢
  rw [List.length_map, literals]
  split at builds
  · cases builds
  next function _ =>
  split at builds
  · cases builds
  next fit =>
  have shifted : (arguments.map (shift levels)).find?
      (fun argument => !argument.type.same function.parameterType) = none := by
    simp only [List.find?_map, Function.comp_def, type_shift, fit, Option.map_none]
  simp only [shifted]
  split at builds
  · obtain ⟨value, rfl⟩ := literal_of_fold builds
    exact builds
  · cases builds
    rw [shift, shiftAll_eq_map]

end Builders

end Expr

/-! ## Scopes with more around them -/

namespace Scope

/-- The scope with more inputs around those that it has. -/
def under (scope : Scope ρ) (outer : List (ValueType ρ)) : Scope ρ :=
  ⟨scope.current, scope.outer ++ outer⟩

variable {scope : Scope ρ} {outer : List (ValueType ρ)}

theorem depth_under : (scope.under outer).depth = scope.depth + outer.length :=
  List.length_append

theorem input_under : (scope.under outer).input = scope.input.shift outer.length := by
  rw [input, depth_under]
  rfl

theorem inputOf_under {lexeme : String} {whole : Expr ρ}
    (resolves : scope.inputOf lexeme = .ok whole) :
    (scope.under outer).inputOf lexeme = .ok (whole.shift outer.length) := by
  obtain ⟨type, found, rfl⟩ := inputOf_eq_ok_iff.1 resolves
  obtain ⟨bound, _⟩ := List.getElem?_eq_some_iff.1 found
  refine inputOf_eq_ok_iff.2 ⟨type, ?_, ?_⟩
  · rw [under, ← List.cons_append, List.getElem?_append_left bound, found]
  · have inside : lexeme.toList.length - 1 ≤ scope.depth := Nat.le_of_lt_succ bound
    rw [depth_under, Expr.shift, Nat.sub_add_comm inside]

end Scope

/-! ## Reading under more inputs -/

/-- The phrase with more inputs around it. -/
def Phrase.under (outer : List (ValueType ρ)) : Phrase ρ → Phrase ρ
  | .suffixes base whole => .suffixes (base.shift outer.length) (whole.shift outer.length)
  | .expression scope floor whole =>
      .expression (scope.under outer) floor (whole.shift outer.length)
  | .primary scope whole => .primary (scope.under outer) (whole.shift outer.length)
  | .arguments scope values =>
      .arguments (scope.under outer) (values.map (Expr.shift outer.length))
  | .listed scope values => .listed (scope.under outer) (values.map (Expr.shift outer.length))
  | .continuation scope floor left whole =>
      .continuation (scope.under outer) floor (left.shift outer.length)
        (whole.shift outer.length)
  | .question scope keyword source whole =>
      .question (scope.under outer) keyword (source.shift outer.length) (whole.shift outer.length)

theorem Reads.under {now : DateTime} (outer : List (ValueType ρ)) {phrase : Phrase ρ}
    {text rest : List Char} (derivation : Reads now phrase text rest) :
    Reads now (phrase.under outer) text rest := by
  induction derivation with
  | noSuffix next other => exact .noSuffix next other
  | suffix point isDot named isName resolves _ ih =>
      exact .suffix point isDot named isName (Expr.ofMember_shift _ resolves) ih
  | expression _ _ _ ihPrimary ihSuffixes ihContinuation =>
      exact .expression ihPrimary ihSuffixes ihContinuation
  | call named isName opens isOpen _ builds ih =>
      exact .call named isName opens isOpen ih (Expr.ofCall_shift _ builds)
  | name named isName follows other resolves =>
      refine .name named isName follows other ?_
      rw [Scope.input_under]
      exact Expr.ofMember_shift _ resolves
  | now reads isNow => exact .now reads isNow
  | input reads isRun resolves => exact .input reads isRun (Scope.inputOf_under resolves)
  | literal reads isLiteral carries => exact .literal reads isLiteral carries
  | group opens isOpen _ closes isClose ih => exact .group opens isOpen ih closes isClose
  | unary reads isMark prefixes _ builds ih =>
      exact .unary reads isMark prefixes ih (Expr.ofUnary_shift _ builds)
  | noArguments opens isOpen closes isClose => exact .noArguments opens isOpen closes isClose
  | arguments opens isOpen follows other _ closes isClose ih =>
      exact .arguments opens isOpen follows other ih closes isClose
  | last _ follows other ih => exact .last ih follows other
  | cons _ separates isComma _ ihExpression ihListed =>
      exact .cons ihExpression separates isComma ihListed
  | stop follows stops => exact .stop follows stops
  | asked reads isKeyword _ _ ihQuestion ihContinuation =>
      exact .asked reads isKeyword ihQuestion ihContinuation
  | operator reads isMark joins binds _ builds _ ihExpression ihContinuation =>
      exact .operator reads isMark joins binds ihExpression (Expr.ofBinary_shift _ builds)
        ihContinuation
  | @question scope keyword source predicate element _ _ _ _ _ _ sequence opens isOpen _ boolean
      closes isClose ih =>
      have sequence : (source.shift outer.length).type.element? = some element := by
        rw [Expr.type_shift, sequence]
      have boolean : (predicate.shift outer.length).type.isBoolean = true := by
        rw [Expr.type_shift, boolean]
      have deeper : scope.depth + 1 + outer.length = (scope.under outer).depth + 1 := by
        rw [Scope.depth_under]
        omega
      rw [Phrase.under, Expr.shift, deeper]
      exact .question sequence opens isOpen ih boolean closes isClose

/-! ## Values under more inputs -/

namespace Expr

variable [BEq ρ] {types : List (ValueType ρ)}

/-- A tree has the value in its own environment that the shifted tree has in the larger one. -/
theorem Typed.valueIn_shift {expr : Expr ρ} (typed : expr.Typed types) (outer : List (Value ρ)) :
    ∀ environment : List (Value ρ), environment.length = types.length →
      (expr.shift outer.length).valueIn (environment ++ outer) = expr.valueIn environment := by
  induction typed with
  | literal => exact fun _ _ => rfl
  | @input types depth type bound =>
      intro environment fits
      obtain ⟨inside, _⟩ := List.getElem?_eq_some_iff.1 bound
      have near : environment.length - 1 - depth < environment.length := by omega
      have same : (environment ++ outer).length - 1 - (depth + outer.length) =
          environment.length - 1 - depth := by
        rw [List.length_append]
        omega
      rw [shift, valueIn, valueIn, same, List.getElem?_append_left near]
  | member _ _ ih =>
      intro environment fits
      rw [shift, valueIn, valueIn, ih environment fits]
  | unary _ _ ih =>
      intro environment fits
      rw [shift, valueIn, valueIn, ih environment fits]
  | binary _ _ _ ihLeft ihRight =>
      intro environment fits
      rw [shift, valueIn, valueIn, ihLeft environment fits, ihRight environment fits]
  | @pattern types op regex? left right _ _ _ _ _ ihLeft ihRight =>
      intro environment fits
      cases regex? with
      | some regex => rw [shift, valueIn, valueIn, ihLeft environment fits]
      | none =>
          rw [shift, valueIn, valueIn, ihLeft environment fits, ihRight environment fits]
  | call _ _ _ _ ih =>
      intro environment fits
      rw [shift, valueIn, valueIn, valuesIn_eq_map, valuesIn_eq_map, shiftAll_eq_map, List.map_map]
      congr 3
      exact List.map_congr_left fun argument mem => ih argument mem environment fits
  | @nested types quantifier element source predicate _ _ _ _ ihSource ihPredicate =>
      intro environment fits
      have tests : ∀ value : Value ρ,
          (predicate.shift outer.length).valueIn (value :: (environment ++ outer)) =
            predicate.valueIn (value :: environment) := by
        intro value
        refine ihPredicate (value :: environment) ?_
        rw [List.length_cons, List.length_append, fits]
        rfl
      simp only [shift, valueIn, ihSource environment fits, tests]

end Expr

end RecordQuery
