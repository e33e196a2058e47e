import RecordQuery.Proofs.Time.Range
import RecordQuery.Proofs.Typing.Soundness

/-!
# Where null comes from

Every operator has a last case that gives null for operands that it does not know.  In the
evaluation of a query this case is met with null operands only.  `BinaryOp.LacksResult` lists when
a binary operator has no result, and for operands of the types that the typing rules take there is
no other null (`BinaryOp.apply_eq_null_iff`).

`Expr.LacksValue` lists the same for all parts of a tree: inputs and members that hold null,
operators without a result, calls that reject their texts.  Literals, comparisons, the logical and
the pattern operators and questions are not in the list; they are never null (`Expr.Answers`).
`eval_eq_null_iff` states this for everything that the evaluation of a query comes to.  Where the
readers of a type do not keep to it, a null that is not in the list comes from a part whose value
is not of its own type.
-/

set_option autoImplicit false

namespace RecordQuery

variable {ρ : Type}

/-! ## Operators without a result -/

theorem Value.orNull_eq_null_iff {α : Type} {make : α → Value ρ} {value? : Option α}
    (makes : ∀ value, make value ≠ .null) : Value.orNull make value? = .null ↔ value? = none := by
  cases value? with
  | none => exact iff_of_true rfl rfl
  | some value => exact iff_of_false (makes value) (Option.some_ne_none value)

theorem Value.timeSpan_ne_null (span : TimeSpan) : (Value.timeSpan span : Value ρ) ≠ .null := nofun

theorem Value.dateTime_ne_null (point : DateTime) : (Value.dateTime point : Value ρ) ≠ .null :=
  nofun

theorem ValueType.Admits.eq_null_or_record {owner : ValueType ρ} {member : Member ρ}
    {value : Value ρ} (admits : owner.Admits value) (listed : member ∈ owner.members) :
    value = .null ∨ ∃ record, value = .record record := by
  cases admits with
  | null => exact .inl rfl
  | record => exact .inr ⟨_, rfl⟩
  | _ => cases listed

/-- A unary operator has no result for null, and for nothing else of a type that it takes. -/
theorem UnaryOp.apply_eq_null_iff {op : UnaryOp} {type : ValueType ρ} {operand : Value ρ}
    (takes : op.takes type = true) (admits : type.Admits operand) :
    op.apply operand = .null ↔ operand = .null := by
  constructor
  · intro lacks
    cases admits with
    | null => rfl
    | _ => cases op <;> first | (cases lacks; done) | cases takes
  · rintro rfl
    cases op <;> rfl

namespace BinaryOp

/-- The operator needs values on both sides.  The others answer for null too. -/
def isStrict : BinaryOp → Bool
  | or | and | equal | notEqual | less | lessEqual | greater | greaterEqual => false
  | bitOr | bitXor | bitAnd | shiftLeft | shiftRight | add | subtract | multiply | divide
  | modulo => true

/-- An operator has no result for two values. -/
inductive LacksResult : BinaryOp → Value ρ → Value ρ → Prop
  | left {op : BinaryOp} {b : Value ρ} (strict : op.isStrict = true) : LacksResult op .null b
  | right {op : BinaryOp} {a : Value ρ} (strict : op.isStrict = true) : LacksResult op a .null
  | quotient {n : Int64} : LacksResult .divide (.integer n) (.integer 0)
  | remainder {n : Int64} : LacksResult .modulo (.integer n) (.integer 0)
  | spanSum {a b : TimeSpan} (outside : ¬ TimeSpan.InRange (a.nanoseconds + b.nanoseconds)) :
      LacksResult .add (.timeSpan a) (.timeSpan b)
  | spanDifference {a b : TimeSpan}
      (outside : ¬ TimeSpan.InRange (a.nanoseconds - b.nanoseconds)) :
      LacksResult .subtract (.timeSpan a) (.timeSpan b)
  | pointSum {a : DateTime} {b : TimeSpan}
      (outside : ¬ a.InRange (a.nanoseconds + b.nanoseconds)) :
      LacksResult .add (.dateTime a) (.timeSpan b)
  | pointDifference {a : DateTime} {b : TimeSpan}
      (outside : ¬ a.InRange (a.nanoseconds - b.nanoseconds)) :
      LacksResult .subtract (.dateTime a) (.timeSpan b)

theorem ne_and_or_of_isStrict {op : BinaryOp} (strict : op.isStrict = true) :
    op ≠ .and ∧ op ≠ .or := by
  refine ⟨?_, ?_⟩ <;> (rintro rfl; cases strict)

theorem apply_of_not_strict [BEq ρ] {op : BinaryOp} (answers : op.isStrict = false)
    (a b : Value ρ) : ∃ truth, op.apply a b = .boolean truth := by
  cases op <;> first | exact ⟨_, rfl⟩ | cases answers

section Sums

variable {a b : TimeSpan} {point : DateTime}

theorem spanSum_eq_null_iff :
    sum (ρ := ρ) (.timeSpan a) (.timeSpan b) = .null ↔
      ¬ TimeSpan.InRange (a.nanoseconds + b.nanoseconds) :=
  (Value.orNull_eq_null_iff Value.timeSpan_ne_null).trans TimeSpan.ofNanoseconds?_eq_none_iff

theorem spanDifference_eq_null_iff :
    difference (ρ := ρ) (.timeSpan a) (.timeSpan b) = .null ↔
      ¬ TimeSpan.InRange (a.nanoseconds - b.nanoseconds) :=
  (Value.orNull_eq_null_iff Value.timeSpan_ne_null).trans TimeSpan.ofNanoseconds?_eq_none_iff

theorem pointSum_eq_null_iff :
    sum (ρ := ρ) (.dateTime point) (.timeSpan b) = .null ↔
      ¬ point.InRange (point.nanoseconds + b.nanoseconds) :=
  (Value.orNull_eq_null_iff Value.dateTime_ne_null).trans DateTime.add?_eq_none_iff

theorem pointDifference_eq_null_iff :
    difference (ρ := ρ) (.dateTime point) (.timeSpan b) = .null ↔
      ¬ point.InRange (point.nanoseconds - b.nanoseconds) :=
  (Value.orNull_eq_null_iff Value.dateTime_ne_null).trans DateTime.sub?_eq_none_iff

end Sums

variable {op : BinaryOp} {left right type : ValueType ρ} {a b : Value ρ}

theorem LacksResult.apply_eq_null [BEq ρ] (lacks : op.LacksResult a b) : op.apply a b = .null := by
  cases lacks with
  | left strict => cases op <;> first | (cases strict; done) | rfl
  | right strict => cases a <;> cases op <;> first | rfl | cases strict
  | quotient => rfl
  | remainder => rfl
  | spanSum outside => exact spanSum_eq_null_iff.2 outside
  | spanDifference outside => exact spanDifference_eq_null_iff.2 outside
  | pointSum outside => exact pointSum_eq_null_iff.2 outside
  | pointDifference outside => exact pointDifference_eq_null_iff.2 outside

/-- What computes with two numbers of which one is a float gives a float. -/
structure GivesFloats (compute : Value ρ → Value ρ → Value ρ) : Prop where
  integer_float : ∀ m y, ∃ z, compute (.integer m) (.float y) = .float z
  float_integer : ∀ x n, ∃ z, compute (.float x) (.integer n) = .float z
  floats : ∀ x y, ∃ z, compute (.float x) (.float y) = .float z

theorem sum_givesFloats : GivesFloats (sum (ρ := ρ)) :=
  ⟨fun _ _ => ⟨_, rfl⟩, fun _ _ => ⟨_, rfl⟩, fun _ _ => ⟨_, rfl⟩⟩

theorem difference_givesFloats : GivesFloats (difference (ρ := ρ)) :=
  ⟨fun _ _ => ⟨_, rfl⟩, fun _ _ => ⟨_, rfl⟩, fun _ _ => ⟨_, rfl⟩⟩

theorem product_givesFloats : GivesFloats (product (ρ := ρ)) :=
  ⟨fun _ _ => ⟨_, rfl⟩, fun _ _ => ⟨_, rfl⟩, fun _ _ => ⟨_, rfl⟩⟩

theorem dividing_givesFloats (integers : Int64 → Int64 → Int64) (floats : Float → Float → Float) :
    GivesFloats (dividing (ρ := ρ) integers floats) :=
  ⟨fun _ _ => ⟨_, rfl⟩, fun _ _ => ⟨_, rfl⟩, fun _ _ => ⟨_, rfl⟩⟩

namespace LacksResult

/-- What computes with numbers has no result for null, and for those integers that are listed. -/
theorem of_arithmetic {compute : Value ρ → Value ρ → Value ρ} (strict : op.isStrict = true)
    (integers : ∀ m n, compute (.integer m) (.integer n) = .null →
      op.LacksResult (.integer m : Value ρ) (.integer n))
    (others : GivesFloats compute)
    (gives : left.arithmetic? right = some type) (ha : left.Admits a) (hb : right.Admits b)
    (null : compute a b = .null) : op.LacksResult a b := by
  rcases ValueType.arithmetic_cases gives with
    ⟨rfl, rfl, rfl⟩ | ⟨rfl, rfl, rfl⟩ | ⟨rfl, rfl, rfl⟩ | ⟨rfl, rfl, rfl⟩
  · cases ha with
    | null => exact .left strict
    | integer =>
        cases hb with
        | null => exact .right strict
        | integer => exact integers _ _ null
  · cases ha with
    | null => exact .left strict
    | integer =>
        cases hb with
        | null => exact .right strict
        | float =>
            obtain ⟨z, same⟩ := others.integer_float _ _
            cases same.symm.trans null
  · cases ha with
    | null => exact .left strict
    | float =>
        cases hb with
        | null => exact .right strict
        | integer =>
            obtain ⟨z, same⟩ := others.float_integer _ _
            cases same.symm.trans null
  · cases ha with
    | null => exact .left strict
    | float =>
        cases hb with
        | null => exact .right strict
        | float =>
            obtain ⟨z, same⟩ := others.floats _ _
            cases same.symm.trans null

theorem of_bitwise {onBits : Int64 → Int64 → Int64} {onTruth : Bool → Bool → Bool}
    (strict : op.isStrict = true) (gives : bitOr.resultType? left right = some type)
    (ha : left.Admits a) (hb : right.Admits b) (null : bitwise onBits onTruth a b = .null) :
    op.LacksResult a b := by
  simp only [resultType?] at gives
  split at gives
  · cases ha with
    | null => exact .left strict
    | integer =>
        cases hb with
        | null => exact .right strict
        | integer => cases null
  · cases ha with
    | null => exact .left strict
    | boolean =>
        cases hb with
        | null => exact .right strict
        | boolean => cases null
  · cases gives

theorem of_onIntegers {compute : Int64 → Int64 → Int64} (strict : op.isStrict = true)
    (gives : shiftLeft.resultType? left right = some type) (ha : left.Admits a)
    (hb : right.Admits b) (null : onIntegers compute a b = .null) : op.LacksResult a b := by
  simp only [resultType?] at gives
  split at gives
  · cases ha with
    | null => exact .left strict
    | integer =>
        cases hb with
        | null => exact .right strict
        | integer => cases null
  · cases gives

theorem of_dividing {integers : Int64 → Int64 → Int64} {floats : Float → Float → Float}
    (strict : op.isStrict = true)
    (divides : ∀ n, op.LacksResult (.integer n : Value ρ) (.integer 0))
    (gives : left.arithmetic? right = some type) (ha : left.Admits a) (hb : right.Admits b)
    (null : dividing integers floats a b = .null) : op.LacksResult a b := by
  refine of_arithmetic strict ?_ (dividing_givesFloats _ _) gives ha hb null
  intro m n null
  simp only [dividing] at null
  split at null
  · next zero => exact zero ▸ divides m
  · cases null

theorem of_sum (gives : add.resultType? left right = some type) (ha : left.Admits a)
    (hb : right.Admits b) (null : sum a b = .null) : add.LacksResult a b := by
  simp only [resultType?] at gives
  split at gives
  · cases ha with
    | null => exact .left rfl
    | string =>
        cases hb with
        | null => exact .right rfl
        | string => cases null
  · cases ha with
    | null => exact .left rfl
    | timeSpan =>
        cases hb with
        | null => exact .right rfl
        | timeSpan => exact .spanSum (spanSum_eq_null_iff.1 null)
  · cases ha with
    | null => exact .left rfl
    | dateTime =>
        cases hb with
        | null => exact .right rfl
        | timeSpan => exact .pointSum (pointSum_eq_null_iff.1 null)
  · refine of_arithmetic rfl (fun _ _ null => ?_) sum_givesFloats gives ha hb null
    cases null

theorem of_difference (gives : subtract.resultType? left right = some type) (ha : left.Admits a)
    (hb : right.Admits b) (null : difference a b = .null) : subtract.LacksResult a b := by
  simp only [resultType?] at gives
  split at gives
  · cases ha with
    | null => exact .left rfl
    | timeSpan =>
        cases hb with
        | null => exact .right rfl
        | timeSpan => exact .spanDifference (spanDifference_eq_null_iff.1 null)
  · cases ha with
    | null => exact .left rfl
    | dateTime =>
        cases hb with
        | null => exact .right rfl
        | dateTime => cases null
  · cases ha with
    | null => exact .left rfl
    | dateTime =>
        cases hb with
        | null => exact .right rfl
        | timeSpan => exact .pointDifference (pointDifference_eq_null_iff.1 null)
  · refine of_arithmetic rfl (fun _ _ null => ?_) difference_givesFloats gives ha hb null
    cases null

end LacksResult

/-- For operands of types that it takes, an operator has no null but those in the list. -/
theorem apply_eq_null_iff [BEq ρ] (gives : op.resultType? left right = some type)
    (ha : left.Admits a) (hb : right.Admits b) : op.apply a b = .null ↔ op.LacksResult a b := by
  refine ⟨fun null => ?_, LacksResult.apply_eq_null⟩
  cases op with
  | or | and | equal | notEqual | less | lessEqual | greater | greaterEqual => cases null
  | bitOr | bitXor | bitAnd => exact .of_bitwise rfl gives ha hb null
  | shiftLeft | shiftRight => exact .of_onIntegers rfl gives ha hb null
  | add => exact .of_sum gives ha hb null
  | subtract => exact .of_difference gives ha hb null
  | multiply =>
      refine .of_arithmetic rfl (fun _ _ null => ?_) product_givesFloats gives ha hb null
      cases null
  | divide => exact .of_dividing rfl (fun _ => .quotient) gives ha hb null
  | modulo => exact .of_dividing rfl (fun _ => .remainder) gives ha hb null

end BinaryOp

/-! ## Parts without a value -/

theorem Value.orNull_toOption_eq_null_iff {ε α : Type} {make : α → Value ρ} {result : Except ε α}
    (makes : ∀ value, make value ≠ .null) :
    Value.orNull id (make <$> result).toOption = .null ↔ ∃ fault, result = .error fault := by
  cases result with
  | error fault => exact iff_of_true rfl ⟨fault, rfl⟩
  | ok value => exact iff_of_false (makes value) nofun

/-- A function rejects the texts that it is given. -/
inductive Function.Rejects (values : List (Value ρ)) : Function → Prop
  | dateTime {fault : ReadingFault}
      (rejected : DateTime.ofText (textAt values 0) = .error fault) : Rejects values .dateTime
  | dateTimeByFormat {fault : ReadingFault}
      (rejected : DateTime.ofTextByFormat (textAt values 0) (textAt values 1) = .error fault) :
      Rejects values .dateTimeByFormat
  | timeSpan {fault : ReadingFault}
      (rejected : TimeSpan.ofText (textAt values 0) = .error fault) : Rejects values .timeSpan

theorem Function.apply_eq_null_iff {function : Function} {values : List (Value ρ)} :
    Value.orNull id (function.apply values).toOption = .null ↔ function.Rejects values := by
  constructor
  · intro null
    cases function with
    | dateTime =>
        obtain ⟨_, rejected⟩ := (Value.orNull_toOption_eq_null_iff Value.dateTime_ne_null).1 null
        exact .dateTime rejected
    | dateTimeByFormat =>
        obtain ⟨_, rejected⟩ := (Value.orNull_toOption_eq_null_iff Value.dateTime_ne_null).1 null
        exact .dateTimeByFormat rejected
    | timeSpan =>
        obtain ⟨_, rejected⟩ := (Value.orNull_toOption_eq_null_iff Value.timeSpan_ne_null).1 null
        exact .timeSpan rejected
  · intro rejects
    cases rejects with
    | dateTime rejected | dateTimeByFormat rejected =>
        exact (Value.orNull_toOption_eq_null_iff Value.dateTime_ne_null).2 ⟨_, rejected⟩
    | timeSpan rejected =>
        exact (Value.orNull_toOption_eq_null_iff Value.timeSpan_ne_null).2 ⟨_, rejected⟩

theorem Literal.toValue_ne_null (literal : Literal) : (literal.toValue : Value ρ) ≠ .null := by
  cases literal <;> nofun

theorem Quantifier.answer_ne_null (quantifier : Quantifier) (passes : Value ρ → Bool)
    (elements : List (Value ρ)) : quantifier.answer passes elements ≠ .null := by
  cases quantifier <;> nofun

namespace Expr

/-- Expressions that have a value whatever their parts are. -/
inductive Answers : Expr ρ → Prop
  | literal {value : Literal} : Answers (.literal value)
  | binary {op : BinaryOp} {type : ValueType ρ} {left right : Expr ρ}
      (answers : op.isStrict = false) : Answers (.binary op type left right)
  | pattern {op : PatternOp} {regex? : Option Regex.Pattern} {left right : Expr ρ} :
      Answers (.pattern op regex? left right)
  | nested {quantifier : Quantifier} {depth : Nat} {source predicate : Expr ρ} :
      Answers (.nested quantifier depth source predicate)

variable [BEq ρ]

/-- The value of an expression over some frames. -/
def valueOver (expr : Expr ρ) (frames : Frames ρ) : Value ρ := (expr.eval.run frames).1

/-- An expression has no value over some frames, for a reason that lies in its own operation: what
it reads is null, an operand is, an operator has no result, or a function rejects its texts. -/
inductive LacksValue (frames : Frames ρ) : Expr ρ → Prop
  | input {depth : Nat} {type : ValueType ρ} (null : frames.input depth = .null) :
      LacksValue frames (.input depth type)
  | base {base : Expr ρ} {read : Member ρ} (null : base.valueOver frames = .null) :
      LacksValue frames (.member base read)
  | member {base : Expr ρ} {read : Member ρ} {record : ρ}
      (owner : base.valueOver frames = .record record) (null : read.read record = .null) :
      LacksValue frames (.member base read)
  | operand {op : UnaryOp} {operand : Expr ρ} (null : operand.valueOver frames = .null) :
      LacksValue frames (.unary op operand)
  | binary {op : BinaryOp} {type : ValueType ρ} {left right : Expr ρ}
      (lacks : op.LacksResult (left.valueOver frames) (right.valueOver frames)) :
      LacksValue frames (.binary op type left right)
  | call {function : Function} {arguments : List (Expr ρ)}
      (rejects : function.Rejects (arguments.map (·.valueOver frames))) :
      LacksValue frames (.call function arguments)

variable {types : List (ValueType ρ)} {expr node : Expr ρ} {frames : Frames ρ}

theorem RunsIn.valueOver (runs : expr.RunsIn frames) :
    expr.valueOver frames = expr.valueIn frames.environment := congrArg Prod.fst runs

theorem valueOver_arguments {arguments : List (Expr ρ)}
    (typed : ∀ argument ∈ arguments, argument.Typed types)
    (fits : frames.inputs.length = types.length) :
    arguments.map (·.valueOver frames) = arguments.map (valueIn frames.environment) :=
  List.map_congr_left fun argument mem => ((typed argument mem).runsIn frames fits).valueOver

theorem Typed.valueOver_ne_null (typed : node.Typed types)
    (fits : frames.inputs.length = types.length) (answers : node.Answers) :
    node.valueOver frames ≠ .null := by
  rw [(typed.runsIn frames fits).valueOver]
  cases answers with
  | @literal value => exact value.toValue_ne_null
  | @binary _ _ left right answers =>
      obtain ⟨truth, same⟩ := BinaryOp.apply_of_not_strict answers
        (left.valueIn frames.environment) (right.valueIn frames.environment)
      simp [valueIn, same]
  | @pattern _ regex? => cases regex? <;> simp [valueIn]
  | nested => exact Quantifier.answer_ne_null _ _ _

theorem Typed.valueOver_eq_null (typed : node.Typed types)
    (fits : frames.inputs.length = types.length) (lacks : node.LacksValue frames) :
    node.valueOver frames = .null := by
  rw [(typed.runsIn frames fits).valueOver]
  cases lacks with
  | input null =>
      cases typed with
      | input bound =>
          obtain ⟨inside, _⟩ := List.getElem?_eq_some_iff.1 bound
          rw [valueIn, ← Frames.input_eq_of_lt (fits ▸ inside), null]
  | base null =>
      cases typed with
      | member base_typed =>
          rw [(base_typed.runsIn frames fits).valueOver] at null
          rw [valueIn, null]
          rfl
  | member owner null =>
      cases typed with
      | member base_typed =>
          rw [(base_typed.runsIn frames fits).valueOver] at owner
          rw [valueIn, owner]
          exact null
  | @operand op _ null =>
      cases typed with
      | unary operand_typed =>
          rw [(operand_typed.runsIn frames fits).valueOver] at null
          rw [valueIn, null]
          cases op <;> rfl
  | binary lacks =>
      cases typed with
      | binary left_typed right_typed =>
          rw [(left_typed.runsIn frames fits).valueOver,
            (right_typed.runsIn frames fits).valueOver] at lacks
          exact lacks.apply_eq_null
  | call rejects =>
      cases typed with
      | call arguments_typed =>
          rw [valueOver_arguments arguments_typed fits] at rejects
          rw [valueIn, valuesIn_eq_map]
          exact Function.apply_eq_null_iff.2 rejects

/-- A null has its reason in the operation of the expression, or else a part of it has a value that
is not of the type of the part. -/
theorem Typed.lacksValue (typed : node.Typed types) (fits : frames.inputs.length = types.length)
    (null : node.valueOver frames = .null) :
    node.LacksValue frames ∨ ∃ part reached, node.Calls frames part reached ∧
      ¬ part.type.Admits (part.valueOver reached) := by
  have value := (typed.runsIn frames fits).valueOver
  rw [null] at value
  have answers : ¬ node.Answers := fun answers => typed.valueOver_ne_null fits answers null
  cases typed with
  | literal => exact absurd .literal answers
  | @input _ depth type bound =>
      obtain ⟨inside, _⟩ := List.getElem?_eq_some_iff.1 bound
      rw [valueIn, ← Frames.input_eq_of_lt (fits ▸ inside)] at value
      exact .inl (.input value.symm)
  | @member _ base read base_typed listed =>
      have base_value := (base_typed.runsIn frames fits).valueOver
      by_cases admits : base.type.Admits (base.valueOver frames)
      · rcases admits.eq_null_or_record listed with base_null | ⟨record, owner⟩
        · exact .inl (.base base_null)
        · rw [valueIn, ← base_value, owner] at value
          exact .inl (.member owner value.symm)
      · exact .inr ⟨base, frames, .member, admits⟩
  | @unary _ op operand operand_typed takes =>
      have operand_value := (operand_typed.runsIn frames fits).valueOver
      by_cases admits : operand.type.Admits (operand.valueOver frames)
      · rw [valueIn, ← operand_value] at value
        exact .inl (.operand ((UnaryOp.apply_eq_null_iff takes admits).1 value.symm))
      · exact .inr ⟨operand, frames, .unary, admits⟩
  | @binary _ op type left right left_typed right_typed gives =>
      have left_runs := left_typed.runsIn frames fits
      have right_value := (right_typed.runsIn frames fits).valueOver
      have strict : op.isStrict = true := by
        cases strict : op.isStrict with
        | true => rfl
        | false => exact absurd (.binary strict) answers
      by_cases left_admits : left.type.Admits (left.valueOver frames)
      · by_cases right_admits : right.type.Admits (right.valueOver frames)
        · rw [valueIn, ← left_runs.valueOver, ← right_value] at value
          have lacks := (BinaryOp.apply_eq_null_iff gives left_admits right_admits).1 value.symm
          exact .inl (.binary lacks)
        · have calls : (Expr.binary op type left right).Calls frames right
              (left.eval.run frames).2 := .right (BinaryOp.ne_and_or_of_isStrict strict)
          rw [show (left.eval.run frames).2 = frames from congrArg Prod.snd left_runs] at calls
          exact .inr ⟨right, frames, calls, right_admits⟩
      · exact .inr ⟨left, frames, .left, left_admits⟩
  | pattern => exact absurd .pattern answers
  | call arguments_typed =>
      rw [valueIn, valuesIn_eq_map, ← valueOver_arguments arguments_typed fits] at value
      exact .inl (.call (Function.apply_eq_null_iff.1 value.symm))
  | nested => exact absurd .nested answers

end Expr

/-! ## Queries -/

/-- Null has no hidden sources.  Literals, comparisons, the logical operators, pattern operators
and questions are never null, whatever the input is.  Everything else that the evaluation of a
query comes to is null only for a reason in its own operation, or because a part of it has a value
that is not of the type of the part.  The latter does not happen over null or a value of the input
type, where this type was put together from registered members: there the reasons in the list are
all that there are. -/
theorem eval_eq_null_iff [BEq ρ] [HasDocuments ρ] {now : DateTime} {type : ValueType ρ}
    {source : String} {expr : Expr ρ} (parses : parse now type source = .ok expr)
    (input : Value ρ) :
    (∀ (node : Expr ρ) (frames : Frames ρ), expr.Reaches (.start input) node frames →
      node.Answers → node.valueOver frames ≠ .null) ∧
    (∀ (node : Expr ρ) (frames : Frames ρ), expr.Reaches (.start input) node frames →
      node.valueOver frames = .null → node.LacksValue frames ∨
        ∃ part reached, node.Calls frames part reached ∧
          ¬ part.type.Admits (part.valueOver reached)) ∧
    (type.Registered → type.Admits input →
      ∀ (node : Expr ρ) (frames : Frames ρ), expr.Reaches (.start input) node frames →
        (node.valueOver frames = .null ↔ node.LacksValue frames)) := by
  obtain ⟨typed, _⟩ := typed_of_parse parses
  refine ⟨?_, ?_, ?_⟩
  · intro node frames reaches answers
    obtain ⟨inner, node_typed, fits⟩ := reaches.fits typed rfl
    exact node_typed.valueOver_ne_null fits answers
  · intro node frames reaches null
    obtain ⟨inner, node_typed, fits⟩ := reaches.fits typed rfl
    exact node_typed.lacksValue fits null
  · intro registered admits node frames reaches
    obtain ⟨inner, node_typed, fits⟩ := reaches.fits typed rfl
    refine ⟨fun null => ?_, node_typed.valueOver_eq_null fits⟩
    rcases node_typed.lacksValue fits null with lacks | ⟨part, reached, calls, foreign⟩
    · exact lacks
    · have fit : Frames.Fit [type] (.start input) := .start registered.honest admits
      obtain ⟨types, part_typed, kept⟩ :=
        (reaches.call calls).keeps Frames.Fit.length Frames.Fit.inside typed fit
      rw [(part_typed.runsIn reached kept.length).valueOver] at foreign
      exact absurd (part_typed.admits kept) foreign

theorem eval_eq_null_iff_remainder :
    ∃ (now : DateTime) (type : ValueType Json) (expr node : Expr Json) (input : Value Json)
      (frames : Frames Json),
      parse now type "10 % $ == 1" = .ok expr ∧ type = .integer ∧ type.Registered ∧
      input = .integer 0 ∧ type.Admits input ∧ expr.Reaches (.start input) node frames ∧
      node = .binary .modulo .integer (.literal (.integer 10)) (.input 0 .integer) ∧
      node.LacksValue frames ∧ node.valueOver frames = .null ∧ expr.valueOver frames ≠ .null := by
  have parses : parse ⟨⟨0, by decide⟩, .midnight⟩ (.integer : ValueType Json) "10 % $ == 1" =
      .ok (.binary .equal .boolean
        (.binary .modulo .integer (.literal (.integer 10)) (.input 0 .integer))
        (.literal (.integer 1))) := by cbv
  obtain ⟨answers, _, exact_⟩ := eval_eq_null_iff parses (.integer 0)
  have lacks : Expr.LacksValue (.start (.integer 0))
      (.binary .modulo .integer (.literal (.integer 10)) (.input 0 .integer) : Expr Json) :=
    .binary .remainder
  have null := (exact_ .integer .integer _ _ (.call .start .left)).2 lacks
  exact ⟨_, _, _, _, _, _, parses, rfl, .integer, rfl, .integer, .call .start .left, rfl, lacks,
    null, answers _ _ .start (.binary rfl)⟩

end RecordQuery
