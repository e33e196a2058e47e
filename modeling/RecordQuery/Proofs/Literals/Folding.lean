import RecordQuery.Proofs.Scoping.Environment

/-!
# Work on literals

Two things are done when a query is read that could be done at each evaluation: a regular
expression that is a literal is read, and a call whose arguments are literals is carried out.
Neither changes a value.  A comparison with a pattern has the value that its operands give, whether
the pattern was read before or not (`Expr.valueIn_pattern`), and a call has the value that its
function gives for the values of its arguments, whether it was carried out or not
(`Expr.valueIn_of_callOf`).
-/

set_option autoImplicit false

namespace RecordQuery

variable {ρ : Type}

/-! ## Patterns -/

theorem Expr.eq_literal_of_literal? {expr : Expr ρ} {value : Literal}
    (is_literal : expr.literal? = some value) : expr = .literal value := by
  cases expr <;> first | exact congrArg Expr.literal (Option.some.inj is_literal) | cases is_literal

/-- A regular expression that was read before is one that a literal writes. -/
theorem Expr.readRegex_eq_some {op : PatternOp} {right : Expr ρ} {regex : Regex.Pattern}
    (written : readRegex op right = .ok (some regex)) :
    ∃ text, right = .literal (.string text) ∧ op.isRegex = true ∧
      Regex.Pattern.ofChars text.toList = .ok regex := by
  unfold readRegex at written
  split at written
  · next text is_regex is_literal =>
      split at written
      · next found reads =>
          cases written
          exact ⟨text, eq_literal_of_literal? is_literal, is_regex, reads⟩
      · cases written
  · cases written

theorem PatternOp.apply_of_regex {op : PatternOp} {text : String} {regex : Regex.Pattern}
    (is_regex : op.isRegex = true) (reads : Regex.Pattern.ofChars text.toList = .ok regex)
    (left : Option String) : op.apply left (some text) = op.applyRegex left regex := by
  simp only [apply, applyRegex, is_regex, if_true, PatternTest.matchesRegex, Option.getD_some,
    reads]

/-- A pattern that is no regular expression fits no text: `=~` is false and `!~` is true. -/
theorem PatternOp.apply_of_invalid {op : PatternOp} {text : String} {fault : Regex.Fault}
    (is_regex : op.isRegex = true) (invalid : Regex.Pattern.ofChars text.toList = .error fault)
    (left : Option String) : op.apply left (some text) = op.isNegated := by
  simp [apply, answer, is_regex, PatternTest.matchesRegex, invalid]

/-- A pattern that was read before fits what it would fit if it were read now. -/
theorem Expr.valueIn_pattern [BEq ρ] {op : PatternOp} {regex? : Option Regex.Pattern}
    {left right : Expr ρ} (written : readRegex op right = .ok regex?)
    (environment : List (Value ρ)) :
    (Expr.pattern op regex? left right).valueIn environment =
      .boolean (op.apply (left.valueIn environment).string?
        (right.valueIn environment).string?) := by
  cases regex? with
  | none => rw [valueIn]
  | some regex =>
      obtain ⟨text, rfl, is_regex, reads⟩ := readRegex_eq_some written
      rw [valueIn, valueIn]
      exact congrArg Value.boolean (PatternOp.apply_of_regex is_regex reads _).symm

theorem Expr.readRegex_congr {op : PatternOp} {right right' : Expr ρ}
    (same : right'.literal? = right.literal?) : readRegex op right' = readRegex op right := by
  rw [readRegex, readRegex, same]

/-- A literal is read as a regular expression where one is asked for, or it is none. -/
theorem Expr.readRegex_literal_cases (op : PatternOp) (text : String) :
    (∃ regex?, readRegex op (.literal (.string text) : Expr ρ) = .ok regex?) ∨
      ∃ fault, readRegex op (.literal (.string text) : Expr ρ) = .error (.invalidPattern fault) ∧
        op.isRegex = true ∧ Regex.Pattern.ofChars text.toList = .error fault := by
  cases is_regex : op.isRegex with
  | false => exact .inl ⟨none, by simp [readRegex, is_regex]⟩
  | true =>
      cases reads : Regex.Pattern.ofChars text.toList with
      | ok regex => exact .inl ⟨some regex, by simp [readRegex, is_regex, literal?, reads]⟩
      | error fault => exact .inr ⟨fault, by simp [readRegex, is_regex, literal?, reads], rfl, rfl⟩

theorem Expr.ofBinary_pattern {entry : BinaryEntry} {op : PatternOp} {left right : Expr ρ}
    (operator : entry.operator = .pattern op) (left_text : left.type = .string)
    (right_text : right.type = .string) :
    ofBinary entry left right =
      (readRegex op right).map fun regex? => .pattern op regex? left right := by
  simp [ofBinary, operator, left_text, right_text, ValueType.isString]

/-! ## Calls -/

namespace Expr

/-- A call of a function with arguments that it takes. -/
def callOf (function : Function) (arguments : List (Expr ρ)) : Except Cause (Expr ρ) :=
  match arguments.mapM literal? with
  | some literals => fold function literals
  | none => .ok (.call function arguments)

theorem callOf_of_literals {function : Function} {arguments : List (Expr ρ)}
    {literals : List Literal} (all : arguments.mapM literal? = some literals) :
    callOf function arguments = fold function literals := by
  rw [callOf, all]

theorem callOf_of_open (function : Function) {arguments : List (Expr ρ)}
    (open_ : arguments.mapM literal? = none) :
    callOf function arguments = .ok (.call function arguments) := by
  rw [callOf, open_]

theorem mapM_literal?_of_open {arguments : List (Expr ρ)} {argument : Expr ρ}
    (mem : argument ∈ arguments) (open_ : argument.literal? = none) :
    arguments.mapM literal? = none := by
  induction arguments with
  | nil => cases mem
  | cons first arguments ih =>
      rw [List.mapM_cons]
      rcases List.mem_cons.1 mem with rfl | later
      · rw [open_]
        rfl
      · rw [ih later]
        cases first.literal? <;> rfl

/-- A function with a name is called if there is one for so many arguments, all of them texts. -/
theorem ofCall_eq_callOf {name : String} {function : Function} {arguments : List (Expr ρ)}
    (resolves : Function.resolve? name arguments.length = some function)
    (texts : ∀ argument ∈ arguments, argument.type = .string) :
    ofCall name arguments = callOf function arguments := by
  have fit : arguments.find? (fun argument => !argument.type.same function.parameterType) =
      none := by
    refine List.find?_eq_none.2 fun argument mem => ?_
    simp [Function.parameterType, texts argument mem, ValueType.same]
  rw [ofCall, resolves]
  simp only [fit]
  rfl

theorem ofCall_eq_ok_iff {name : String} {arguments : List (Expr ρ)} {whole : Expr ρ} :
    ofCall name arguments = .ok whole ↔
      ∃ function, Function.resolve? name arguments.length = some function ∧
        (∀ argument ∈ arguments, argument.type = .string) ∧
        callOf function arguments = .ok whole := by
  constructor
  · intro builds
    cases resolves : Function.resolve? name arguments.length with
    | none =>
        rw [ofCall, resolves] at builds
        cases builds
    | some function =>
        have texts : ∀ argument ∈ arguments, argument.type = .string := by
          rw [ofCall, resolves] at builds
          simp only at builds
          split at builds
          · cases builds
          · next fit =>
              intro argument mem
              have same := List.find?_eq_none.1 fit argument mem
              simpa [Function.parameterType, ValueType.same_string_eq_true_iff] using same
        exact ⟨function, rfl, texts, ofCall_eq_callOf resolves texts ▸ builds⟩
  · rintro ⟨function, resolves, texts, builds⟩
    rw [ofCall_eq_callOf resolves texts, builds]

end Expr

theorem Function.apply_eq_ok {function : Function} {values : List (Value ρ)} {value : Value ρ}
    (applies : function.apply values = .ok value) :
    ∃ literal : Literal, literal.toValue = value ∧ literal.type = function.resultType (ρ := ρ) ∧
      Expr.literalOfTime? value = some literal := by
  cases function with
  | dateTime | dateTimeByFormat =>
      obtain ⟨point, _, rfl⟩ := map_eq_ok_iff.1 applies
      exact ⟨.dateTime point, rfl, rfl, rfl⟩
  | timeSpan =>
      obtain ⟨span, _, rfl⟩ := map_eq_ok_iff.1 applies
      exact ⟨.timeSpan span, rfl, rfl, rfl⟩

namespace Expr

/-- A call of literals is carried out, or the function rejects them. -/
theorem fold_cases (function : Function) (literals : List Literal) :
    (∃ literal : Literal, fold function literals = .ok (.literal literal : Expr ρ) ∧
      literal.type = function.resultType (ρ := ρ) ∧
      function.apply (literals.map Literal.toValue) = .ok (literal.toValue : Value ρ)) ∨
    ∃ fault, fold function literals = (.error (.rejectedArgument fault) : Except Cause (Expr ρ)) ∧
      function.apply (literals.map Literal.toValue : List (Value ρ)) = .error fault := by
  unfold fold
  cases applies : function.apply (literals.map Literal.toValue : List (Value ρ)) with
  | error fault => exact .inr ⟨fault, rfl, rfl⟩
  | ok value =>
      obtain ⟨literal, rfl, type, time⟩ := Function.apply_eq_ok applies
      simp only [time]
      exact .inl ⟨literal, rfl, type, rfl⟩

theorem valuesIn_of_mapM_literal? [BEq ρ] {arguments : List (Expr ρ)} {literals : List Literal}
    (all : arguments.mapM literal? = some literals) (environment : List (Value ρ)) :
    valuesIn environment arguments = literals.map Literal.toValue := by
  induction arguments generalizing literals with
  | nil =>
      cases all
      rfl
  | cons argument arguments ih =>
      simp only [List.mapM_cons, Option.pure_def, Option.bind_eq_bind, Option.bind_eq_some_iff,
        Option.some.injEq] at all
      obtain ⟨literal, is_literal, others, rest, rfl⟩ := all
      rw [valuesIn, ih rest, eq_literal_of_literal? is_literal, valueIn, List.map_cons]

theorem type_of_callOf {function : Function} {arguments : List (Expr ρ)} {whole : Expr ρ}
    (builds : callOf function arguments = .ok whole) : whole.type = function.resultType := by
  unfold callOf at builds
  split at builds
  · next literals _ =>
      rcases fold_cases (ρ := ρ) function literals with ⟨literal, folds, type, _⟩ | ⟨_, fails, _⟩
      · cases folds.symm.trans builds
        exact type
      · cases fails.symm.trans builds
  · cases builds
    rfl

/-- A call that was carried out has the value that it would have if it were carried out now. -/
theorem valueIn_of_callOf [BEq ρ] {function : Function} {arguments : List (Expr ρ)}
    {whole : Expr ρ} (builds : callOf function arguments = .ok whole)
    (environment : List (Value ρ)) :
    whole.valueIn environment =
      .orNull id (function.apply (valuesIn environment arguments)).toOption := by
  unfold callOf at builds
  split at builds
  · next literals all =>
      rcases fold_cases (ρ := ρ) function literals with ⟨literal, folds, _, applies⟩ | ⟨_, fails, _⟩
      · cases folds.symm.trans builds
        rw [valuesIn_of_mapM_literal? all, applies, valueIn]
        rfl
      · cases fails.symm.trans builds
  · cases builds
    rw [valueIn]

end Expr

end RecordQuery
