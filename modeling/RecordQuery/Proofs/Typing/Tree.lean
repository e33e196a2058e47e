import RecordQuery.Proofs.Grammar.Agreement

/-!
# Typed trees

`Expr.Typed types expr` says that every part of a tree fits the part around it, where `types`
are the types of the inputs that it may ask for, from the outside in.  The types of the parts
are those of `Expr.type`; the rules only relate them.

Every tree that the parser builds is typed for the scope it was read in
(`Parser.typed_of_reads`), and the tree of a query is boolean (`typed_of_parse`).  The proof
goes over derivations, so it does not depend on how the parser moves through the text.

No operator, function or question gives a value that has parts (`ValueType.Scalar`).  Records and
sequences come from inputs and their members only.
-/

set_option autoImplicit false

namespace RecordQuery

/-- The types of the inputs, from the outside in. -/
def Scope.types {ρ : Type} (scope : Scope ρ) : List (ValueType ρ) :=
  (scope.current :: scope.outer).reverse

/-- The parts of an expression fit together, and its inputs are among those with the given
types. -/
inductive Expr.Typed {ρ : Type} : List (ValueType ρ) → Expr ρ → Prop
  | literal {types : List (ValueType ρ)} {value : Literal} : Typed types (.literal value)
  | input {types : List (ValueType ρ)} {depth : Nat} {type : ValueType ρ}
      (bound : types[depth]? = some type) : Typed types (.input depth type)
  | member {types : List (ValueType ρ)} {base : Expr ρ} {read : Member ρ}
      (base_typed : Typed types base) (listed : read ∈ base.type.members) :
      Typed types (.member base read)
  | unary {types : List (ValueType ρ)} {op : UnaryOp} {operand : Expr ρ}
      (operand_typed : Typed types operand) (takes : op.takes operand.type = true) :
      Typed types (.unary op operand)
  | binary {types : List (ValueType ρ)} {op : BinaryOp} {type : ValueType ρ}
      {left right : Expr ρ} (left_typed : Typed types left) (right_typed : Typed types right)
      (gives : op.resultType? left.type right.type = some type) :
      Typed types (.binary op type left right)
  | pattern {types : List (ValueType ρ)} {op : PatternOp} {regex? : Option Regex.Pattern}
      {left right : Expr ρ} (left_typed : Typed types left) (right_typed : Typed types right)
      (left_text : left.type = .string) (right_text : right.type = .string)
      (written : Expr.readRegex op right = .ok regex?) :
      Typed types (.pattern op regex? left right)
  | call {types : List (ValueType ρ)} {function : Function} {arguments : List (Expr ρ)}
      (arguments_typed : ∀ argument ∈ arguments, Typed types argument)
      (texts : ∀ argument ∈ arguments, argument.type = .string)
      (count : arguments.length = function.arity)
      (open_ : arguments.mapM Expr.literal? = none) :
      Typed types (.call function arguments)
  | nested {types : List (ValueType ρ)} {quantifier : Quantifier} {element : ValueType ρ}
      {source predicate : Expr ρ} (source_typed : Typed types source)
      (sequence : source.type = .sequence element)
      (predicate_typed : Typed (types ++ [element]) predicate)
      (boolean : predicate.type = .boolean) :
      Typed types (.nested quantifier types.length source predicate)

/-! ## Views of types -/

namespace ValueType

variable {ρ : Type} {type element left right : ValueType ρ}

theorem isBoolean_eq_true_iff : type.isBoolean = true ↔ type = .boolean := by
  cases type <;> simp [isBoolean]

theorem isString_eq_true_iff : type.isString = true ↔ type = .string := by
  cases type <;> simp [isString]

theorem element?_eq_some_iff : type.element? = some element ↔ type = .sequence element := by
  cases type <;> simp [element?]

theorem same_string_eq_true_iff : type.same .string = true ↔ type = .string := by
  cases type <;> simp [same]

/-- Where two types have an arithmetic type, it is that of integers for two integers, and that of
floats for two numbers of which one is a float. -/
theorem arithmetic_cases (gives : left.arithmetic? right = some type) :
    (left = .integer ∧ right = .integer ∧ type = .integer) ∨
    (left = .integer ∧ right = .float ∧ type = .float) ∨
    (left = .float ∧ right = .integer ∧ type = .float) ∨
    (left = .float ∧ right = .float ∧ type = .float) := by
  cases left with
  | integer => cases right <;> simp_all [arithmetic?, isNumeric]
  | float => cases right <;> simp_all [arithmetic?, isNumeric]
  | _ => simp [arithmetic?, isNumeric] at gives

end ValueType

/-! ## Types of results -/

/-- A type of values that have no parts. -/
inductive ValueType.Scalar {ρ : Type} : ValueType ρ → Prop
  | boolean : Scalar .boolean
  | integer : Scalar .integer
  | float : Scalar .float
  | string : Scalar .string
  | timeSpan : Scalar .timeSpan
  | dateTime : Scalar .dateTime

section Results

variable {ρ : Type} {left right type : ValueType ρ}

theorem ValueType.Scalar.members_eq_nil (scalar : type.Scalar) : type.members = [] := by
  cases scalar <;> rfl

theorem Literal.scalar_type (literal : Literal) : (literal.type : ValueType ρ).Scalar := by
  cases literal <;> constructor

theorem Function.scalar_resultType (function : Function) :
    (function.resultType : ValueType ρ).Scalar := by
  cases function <;> constructor

theorem Quantifier.scalar_resultType (quantifier : Quantifier) :
    (quantifier.resultType : ValueType ρ).Scalar := by
  cases quantifier <;> constructor

theorem UnaryOp.scalar_of_takes {op : UnaryOp} (takes : op.takes type = true) : type.Scalar := by
  cases type with
  | record | sequence => cases op <;> cases takes
  | _ => constructor

theorem ValueType.scalar_of_arithmetic (gives : left.arithmetic? right = some type) :
    type.Scalar := by
  rcases arithmetic_cases gives with
    ⟨_, _, rfl⟩ | ⟨_, _, rfl⟩ | ⟨_, _, rfl⟩ | ⟨_, _, rfl⟩ <;> constructor

theorem BinaryOp.scalar_of_resultType? {op : BinaryOp}
    (gives : op.resultType? left right = some type) : type.Scalar := by
  cases op with
  | or | and | equal | notEqual | less | lessEqual | greater | greaterEqual =>
      obtain ⟨_, ⟨⟩⟩ := Option.ite_none_right_eq_some.1 gives
      exact .boolean
  | multiply | divide | modulo => exact ValueType.scalar_of_arithmetic gives
  | _ =>
      simp only [resultType?] at gives
      split at gives <;>
        first | exact ValueType.scalar_of_arithmetic gives | (cases gives <;> constructor)

/-- Binary operators take operands without parts. -/
theorem BinaryOp.scalar_operands {op : BinaryOp}
    (gives : op.resultType? left right = some type) : left.Scalar ∧ right.Scalar := by
  have arithmetic : left.arithmetic? right = some type → left.Scalar ∧ right.Scalar := by
    intro gives
    rcases ValueType.arithmetic_cases gives with
      ⟨rfl, rfl, _⟩ | ⟨rfl, rfl, _⟩ | ⟨rfl, rfl, _⟩ | ⟨rfl, rfl, _⟩ <;>
      exact ⟨by constructor, by constructor⟩
  have numeric : ∀ {left right : ValueType ρ}, (left.isNumeric && right.isNumeric) = true →
      left.Scalar ∧ right.Scalar := by
    intro left right both
    cases left <;> cases right <;>
      first | cases both; done | exact ⟨by constructor, by constructor⟩
  have ordered : ∀ {left right : ValueType ρ}, left.isOrdered right = true →
      left.Scalar ∧ right.Scalar := by
    intro left right common
    unfold ValueType.isOrdered at common
    split at common
    · exact ⟨.string, .string⟩
    · exact ⟨.timeSpan, .timeSpan⟩
    · exact ⟨.dateTime, .dateTime⟩
    · exact numeric common
  cases op with
  | or | and =>
      obtain ⟨both, _⟩ := Option.ite_none_right_eq_some.1 gives
      rw [Bool.and_eq_true, ValueType.isBoolean_eq_true_iff, ValueType.isBoolean_eq_true_iff]
        at both
      rw [both.1, both.2]
      exact ⟨.boolean, .boolean⟩
  | equal | notEqual =>
      obtain ⟨common, _⟩ := Option.ite_none_right_eq_some.1 gives
      unfold ValueType.isComparable at common
      split at common
      · exact ⟨.boolean, .boolean⟩
      · exact ordered common
  | less | lessEqual | greater | greaterEqual =>
      obtain ⟨common, _⟩ := Option.ite_none_right_eq_some.1 gives
      exact ordered common
  | multiply | divide | modulo => exact arithmetic gives
  | _ =>
      simp only [resultType?] at gives
      split at gives <;>
        first
        | exact arithmetic gives
        | (cases gives; done)
        | exact ⟨by constructor, by constructor⟩

end Results

/-! ## Builders of expressions -/

namespace ValueType

variable {ρ : Type}

theorem mem_of_candidates {members : List (Member ρ)} {name : String} {found : Member ρ}
    (candidate : found ∈ candidates members name) : found ∈ members := by
  unfold candidates at candidate
  simp only at candidate
  split at candidate
  · next first exact_ =>
    obtain rfl := List.mem_singleton.1 candidate
    exact List.mem_of_find?_eq_some exact_
  · exact (List.mem_filter.1 candidate).1

/-- A name is resolved to a listed member. -/
theorem mem_of_resolveMember {owner : ValueType ρ} {name : String} {found : Member ρ}
    (resolves : owner.resolveMember name = .ok found) : found ∈ owner.members := by
  unfold resolveMember at resolves
  split at resolves
  · cases resolves
  · next only =>
    cases resolves
    exact mem_of_candidates (only ▸ List.mem_singleton_self found)
  · cases resolves

end ValueType

namespace Expr

variable {ρ : Type} {types : List (ValueType ρ)}

theorem ofMember_eq_ok_iff {base whole : Expr ρ} {name : String} :
    base.ofMember name = .ok whole ↔
      ∃ found, base.type.resolveMember name = .ok found ∧ .member base found = whole :=
  map_eq_ok_iff

theorem ofUnary_eq_ok_iff {op : UnaryOp} {symbol : String} {operand whole : Expr ρ} :
    ofUnary op symbol operand = .ok whole ↔
      op.takes operand.type = true ∧ .unary op operand = whole := by
  unfold ofUnary
  split
  · next takes => simp [takes]
  · next refused => simp [refused]

/-- A binary operator is built where its table of types has a result, a pattern operator
between two texts of which the pattern can be read. -/
theorem ofBinary_eq_ok_iff {entry : BinaryEntry} {left right whole : Expr ρ} :
    ofBinary entry left right = .ok whole ↔
      (∃ op type, entry.operator = .value op ∧
        op.resultType? left.type right.type = some type ∧ .binary op type left right = whole) ∨
      (∃ op regex?, entry.operator = .pattern op ∧ left.type = .string ∧ right.type = .string ∧
        readRegex op right = .ok regex? ∧ .pattern op regex? left right = whole) := by
  cases operator : entry.operator with
  | value op =>
      simp only [ofBinary, operator]
      cases gives : op.resultType? left.type right.type with
      | none => simp [gives]
      | some type => simp [gives]
  | pattern op =>
      simp only [ofBinary, operator]
      split
      · next texts =>
          simp only [Bool.and_eq_true, ValueType.isString_eq_true_iff] at texts
          refine (map_eq_ok_iff (x := readRegex op right)).trans ?_
          simp [texts]
      · next other =>
          simp only [Bool.and_eq_true, ValueType.isString_eq_true_iff] at other
          simp only [reduceCtorEq, false_and, exists_false, false_or, false_iff]
          rintro ⟨_, _, _, left_text, right_text, _⟩
          exact other ⟨left_text, right_text⟩

theorem scalar_of_ofUnary {op : UnaryOp} {symbol : String} {operand whole : Expr ρ}
    (builds : ofUnary op symbol operand = .ok whole) : whole.type.Scalar := by
  obtain ⟨takes, rfl⟩ := ofUnary_eq_ok_iff.1 builds
  exact UnaryOp.scalar_of_takes takes

theorem scalar_of_ofBinary {entry : BinaryEntry} {left right whole : Expr ρ}
    (builds : ofBinary entry left right = .ok whole) : whole.type.Scalar := by
  rcases ofBinary_eq_ok_iff.1 builds with ⟨_, _, _, gives, rfl⟩ | ⟨_, _, _, _, _, _, rfl⟩
  · exact BinaryOp.scalar_of_resultType? gives
  · exact .boolean

/-- A call of literals is carried out when it is built. -/
theorem literal_of_fold {function : Function} {literals : List Literal} {whole : Expr ρ}
    (builds : fold function literals = .ok whole) : ∃ value, whole = .literal value := by
  unfold fold at builds
  split at builds
  · split at builds
    · next folded _ =>
        cases builds
        exact ⟨folded, rfl⟩
    · cases builds
  · cases builds

theorem arity_of_resolve? {name : String} {arity : Nat} {function : Function}
    (resolves : Function.resolve? name arity = some function) : function.arity = arity := by
  have fits := List.find?_some resolves
  simp only [decide_eq_true_eq] at fits
  exact fits.1

/-- A call is carried out, or its arguments are as many texts as the function takes, not all of
them literals. -/
theorem ofCall_eq_ok {name : String} {arguments : List (Expr ρ)} {whole : Expr ρ}
    (builds : ofCall name arguments = .ok whole) :
    (∃ value, whole = .literal value) ∨
      ∃ function : Function, arguments.length = function.arity ∧
        (∀ argument ∈ arguments, argument.type = .string) ∧
        arguments.mapM literal? = none ∧ whole = .call function arguments := by
  unfold ofCall at builds
  split at builds
  · cases builds
  · next function resolves =>
      split at builds
      · cases builds
      · next fit =>
          split at builds
          · exact .inl (literal_of_fold builds)
          · next open_ =>
              cases builds
              refine .inr ⟨function, (arity_of_resolve? resolves).symm, ?_, open_, rfl⟩
              intro argument mem
              have same := List.find?_eq_none.1 fit argument mem
              simpa [Function.parameterType, ValueType.same_string_eq_true_iff] using same

end Expr

/-! ## Scopes -/

namespace Scope

variable {ρ : Type} {scope : Scope ρ}

theorem length_types : scope.types.length = scope.depth + 1 := by
  simp [types, depth]

theorem types_enter (element : ValueType ρ) :
    (scope.enter element).types = scope.types ++ [element] := by
  simp [types, enter]

/-- The input `levels` up stands at the depth of the scope less `levels`. -/
theorem getElem?_types {levels : Nat} {type : ValueType ρ}
    (found : (scope.current :: scope.outer)[levels]? = some type) :
    scope.types[scope.depth - levels]? = some type := by
  obtain ⟨bound, _⟩ := List.getElem?_eq_some_iff.1 found
  have inside : levels ≤ scope.depth := by
    simp only [List.length_cons] at bound
    exact Nat.le_of_lt_succ bound
  rw [types, List.getElem?_reverse (by simp only [List.length_cons, depth]; omega), ← found]
  congr 1
  simp only [List.length_cons, depth] at inside ⊢
  omega

theorem input_typed : scope.input.Typed scope.types := by
  have here : (scope.current :: scope.outer)[0]? = some scope.current := rfl
  exact .input (scope.getElem?_types here)

theorem inputOf_eq_ok_iff {lexeme : String} {whole : Expr ρ} :
    scope.inputOf lexeme = .ok whole ↔
      ∃ type, (scope.current :: scope.outer)[lexeme.toList.length - 1]? = some type ∧
        .input (scope.depth - (lexeme.toList.length - 1)) type = whole := by
  unfold inputOf
  simp only
  split
  · next type found => simp [found]
  · next missing => simp [missing]

end Scope

/-! ## What the parser builds -/

/-- What a reader builds is typed, for a reader that goes on from a typed tree. -/
def Phrase.Typed {ρ : Type} : Phrase ρ → Prop
  | .suffixes base whole =>
      ∀ types : List (ValueType ρ), base.Typed types → whole.Typed types
  | .expression scope _ whole => whole.Typed scope.types
  | .primary scope whole => whole.Typed scope.types
  | .arguments scope values => ∀ value ∈ values, value.Typed scope.types
  | .listed scope values => ∀ value ∈ values, value.Typed scope.types
  | .continuation scope _ left whole => left.Typed scope.types → whole.Typed scope.types
  | .question scope _ source whole => source.Typed scope.types → whole.Typed scope.types

namespace Expr

variable {ρ : Type} {types : List (ValueType ρ)}

theorem Typed.ofMember {base whole : Expr ρ} {name : String} (typed : base.Typed types)
    (resolves : base.ofMember name = .ok whole) : whole.Typed types := by
  obtain ⟨found, resolved, rfl⟩ := ofMember_eq_ok_iff.1 resolves
  exact .member typed (ValueType.mem_of_resolveMember resolved)

theorem Typed.ofUnary {op : UnaryOp} {symbol : String} {operand whole : Expr ρ}
    (typed : operand.Typed types) (builds : ofUnary op symbol operand = .ok whole) :
    whole.Typed types := by
  obtain ⟨takes, rfl⟩ := ofUnary_eq_ok_iff.1 builds
  exact .unary typed takes

theorem Typed.ofBinary {entry : BinaryEntry} {left right whole : Expr ρ}
    (left_typed : left.Typed types) (right_typed : right.Typed types)
    (builds : ofBinary entry left right = .ok whole) : whole.Typed types := by
  rcases ofBinary_eq_ok_iff.1 builds with
    ⟨op, type, _, gives, rfl⟩ | ⟨op, regex?, _, left_text, right_text, written, rfl⟩
  · exact .binary left_typed right_typed gives
  · exact .pattern left_typed right_typed left_text right_text written

theorem Typed.ofCall {name : String} {arguments : List (Expr ρ)} {whole : Expr ρ}
    (typed : ∀ argument ∈ arguments, argument.Typed types)
    (builds : ofCall name arguments = .ok whole) : whole.Typed types := by
  rcases ofCall_eq_ok builds with ⟨value, rfl⟩ | ⟨function, count, texts, open_, rfl⟩
  · exact .literal
  · exact .call typed texts count open_

theorem Typed.inputOf {scope : Scope ρ} {lexeme : String} {whole : Expr ρ}
    (resolves : scope.inputOf lexeme = .ok whole) : whole.Typed scope.types := by
  obtain ⟨type, found, rfl⟩ := Scope.inputOf_eq_ok_iff.1 resolves
  exact .input (scope.getElem?_types found)

end Expr

namespace Parser

variable {ρ : Type} {now : DateTime}

/-- What stands in a text is typed. -/
theorem typed_of_reads {phrase : Phrase ρ} {text rest : List Char}
    (derivation : Reads now phrase text rest) : phrase.Typed := by
  induction derivation with
  | noSuffix => exact fun _ typed => typed
  | suffix _ _ _ _ resolves _ ih => exact fun types typed => ih types (typed.ofMember resolves)
  | expression _ _ _ ihPrimary ihSuffixes ihContinuation =>
      exact ihContinuation (ihSuffixes _ ihPrimary)
  | call _ _ _ _ _ builds ih => exact Expr.Typed.ofCall ih builds
  | name _ _ _ _ resolves => exact Scope.input_typed.ofMember resolves
  | now => exact .literal
  | input _ _ resolves => exact Expr.Typed.inputOf resolves
  | literal => exact .literal
  | group _ _ _ _ _ ih => exact ih
  | unary _ _ _ _ builds ih => exact Expr.Typed.ofUnary ih builds
  | noArguments => exact fun _ mem => absurd mem List.not_mem_nil
  | arguments _ _ _ _ _ _ _ ih => exact ih
  | last _ _ _ ih => exact List.forall_mem_singleton.2 ih
  | cons _ _ _ _ ihExpression ihListed => exact List.forall_mem_cons.2 ⟨ihExpression, ihListed⟩
  | stop => exact fun typed => typed
  | asked _ _ _ _ ihQuestion ihContinuation =>
      exact fun typed => ihContinuation (ihQuestion typed)
  | operator _ _ _ _ _ builds _ ihExpression ihContinuation =>
      exact fun typed => ihContinuation (typed.ofBinary ihExpression builds)
  | @question scope keyword source predicate element _ _ _ _ _ _ sequence _ _ _ boolean _ _ ih =>
      intro typed
      have inside : predicate.Typed (scope.types ++ [element]) := scope.types_enter element ▸ ih
      rw [← Scope.length_types]
      exact .nested typed (ValueType.element?_eq_some_iff.1 sequence) inside
        (ValueType.isBoolean_eq_true_iff.1 boolean)

end Parser

/-- The tree of a query is typed for its input, and boolean. -/
theorem typed_of_parse {ρ : Type} {now : DateTime} {type : ValueType ρ} {source : String}
    {expr : Expr ρ} (parses : parse now type source = .ok expr) :
    expr.Typed [type] ∧ expr.type = .boolean := by
  obtain ⟨rest, derivation, _, boolean⟩ := parse_eq_ok_iff.1 parses
  exact ⟨Parser.typed_of_reads derivation, ValueType.isBoolean_eq_true_iff.1 boolean⟩

end RecordQuery
