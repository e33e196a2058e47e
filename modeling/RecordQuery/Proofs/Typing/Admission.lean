import RecordQuery.Proofs.Scoping.Environment

/-!
# Values of a type

A type admits null, and otherwise exactly the values of its own kind: no integer is admitted where
floats are, no float where integers are, and a sequence is admitted if each of its elements is.
Records are admitted by every record type, since their members are not part of a value.

The typing rules and the operators were written apart, and the operators have a last case for
operands that do not fit.  The lemmas here put the two together: an operator that gives a type for
operands of two types gives a value of it for values of these types
(`BinaryOp.admits_apply`).  Arithmetic is treated once for all operators: where two types have an
arithmetic type, the operands are two integers, or numbers of which one is a float, or there is a
null among them (`ValueType.arithmetic_cases`).
-/

set_option autoImplicit false

namespace RecordQuery

/-- The value is null, or of exactly this type. -/
inductive ValueType.Admits {ρ : Type} : ValueType ρ → Value ρ → Prop
  | null {type : ValueType ρ} : Admits type .null
  | boolean {value : Bool} : Admits .boolean (.boolean value)
  | integer {value : Int64} : Admits .integer (.integer value)
  | float {value : Float} : Admits .float (.float value)
  | string {value : String} : Admits .string (.string value)
  | timeSpan {value : TimeSpan} : Admits .timeSpan (.timeSpan value)
  | dateTime {value : DateTime} : Admits .dateTime (.dateTime value)
  | record {name : String} {members : List (Member ρ)} {record : ρ} :
      Admits (.record name members) (.record record)
  | sequence {element : ValueType ρ} {items : List (Value ρ)}
      (elements : ∀ item ∈ items, Admits element item) :
      Admits (.sequence element) (.sequence items)

variable {ρ : Type}

namespace ValueType

variable {type : ValueType ρ}

theorem Admits.orNull {α : Type} {make : α → Value ρ} (makes : ∀ value, type.Admits (make value))
    (value? : Option α) : type.Admits (Value.orNull make value?) := by
  cases value? with
  | none => exact .null
  | some value => exact makes value

theorem Admits.eq_null_or_boolean {value : Value ρ} (admits : ValueType.boolean.Admits value) :
    value = .null ∨ ∃ truth, value = .boolean truth := by
  cases admits with
  | null => exact .inl rfl
  | boolean => exact .inr ⟨_, rfl⟩

/-- The elements of an admitted sequence are admitted. -/
theorem Admits.items {element : ValueType ρ} {value item : Value ρ}
    (admits : (ValueType.sequence element).Admits value) (mem : item ∈ value.items) :
    element.Admits item := by
  cases admits with
  | null => cases mem
  | sequence elements => exact elements item mem

end ValueType

namespace Literal

theorem admits_toValue (literal : Literal) :
    (literal.type : ValueType ρ).Admits literal.toValue := by
  cases literal <;> constructor

end Literal

/-! ## Operators -/

namespace UnaryOp

theorem admits_apply {op : UnaryOp} {type : ValueType ρ} {operand : Value ρ}
    (takes : op.takes type = true) (admits : type.Admits operand) :
    type.Admits (op.apply operand) := by
  cases admits with
  | null => cases op <;> exact .null
  | boolean => cases op <;> first | exact .null | exact .boolean
  | integer => cases op <;> first | exact .null | exact .integer
  | float => cases op <;> first | exact .null | exact .float
  | timeSpan => cases op <;> first | exact .null | exact .timeSpan
  | _ => cases op <;> exact .null

end UnaryOp

namespace BinaryOp

/-- What computes with two integers, or else with two floats, and gives null for a null. -/
structure IsArithmetic (compute : Value ρ → Value ρ → Value ρ) : Prop where
  integers : ∀ m n, ValueType.integer.Admits (compute (.integer m) (.integer n))
  integer_float : ∀ m y, ValueType.float.Admits (compute (.integer m) (.float y))
  float_integer : ∀ x n, ValueType.float.Admits (compute (.float x) (.integer n))
  floats : ∀ x y, ValueType.float.Admits (compute (.float x) (.float y))
  null_left : ∀ b, compute .null b = .null
  null_right : ∀ a, compute a .null = .null

theorem sum_isArithmetic : IsArithmetic (sum (ρ := ρ)) where
  integers _ _ := .integer
  integer_float _ _ := .float
  float_integer _ _ := .float
  floats _ _ := .float
  null_left _ := rfl
  null_right a := by cases a <;> rfl

theorem difference_isArithmetic : IsArithmetic (difference (ρ := ρ)) where
  integers _ _ := .integer
  integer_float _ _ := .float
  float_integer _ _ := .float
  floats _ _ := .float
  null_left _ := rfl
  null_right a := by cases a <;> rfl

theorem product_isArithmetic : IsArithmetic (product (ρ := ρ)) where
  integers _ _ := .integer
  integer_float _ _ := .float
  float_integer _ _ := .float
  floats _ _ := .float
  null_left _ := rfl
  null_right a := by cases a <;> rfl

theorem dividing_isArithmetic (integers : Int64 → Int64 → Int64)
    (floats : Float → Float → Float) : IsArithmetic (dividing (ρ := ρ) integers floats) where
  integers m n := by
    simp only [dividing]
    split
    · exact .null
    · exact .integer
  integer_float _ _ := .float
  float_integer _ _ := .float
  floats _ _ := .float
  null_left _ := rfl
  null_right a := by cases a <;> rfl

variable {left right type : ValueType ρ} {a b : Value ρ}

namespace IsArithmetic

variable {compute : Value ρ → Value ρ → Value ρ}

theorem admits_null_left (arithmetic : IsArithmetic compute) : type.Admits (compute .null b) := by
  rw [arithmetic.null_left]
  exact .null

theorem admits_null_right (arithmetic : IsArithmetic compute) : type.Admits (compute a .null) := by
  rw [arithmetic.null_right]
  exact .null

theorem admits (arithmetic : IsArithmetic compute) (gives : left.arithmetic? right = some type)
    (ha : left.Admits a) (hb : right.Admits b) : type.Admits (compute a b) := by
  rcases ValueType.arithmetic_cases gives with
    ⟨rfl, rfl, rfl⟩ | ⟨rfl, rfl, rfl⟩ | ⟨rfl, rfl, rfl⟩ | ⟨rfl, rfl, rfl⟩
  · cases ha with
    | null => exact arithmetic.admits_null_left
    | integer =>
        cases hb with
        | null => exact arithmetic.admits_null_right
        | integer => exact arithmetic.integers _ _
  · cases ha with
    | null => exact arithmetic.admits_null_left
    | integer =>
        cases hb with
        | null => exact arithmetic.admits_null_right
        | float => exact arithmetic.integer_float _ _
  · cases ha with
    | null => exact arithmetic.admits_null_left
    | float =>
        cases hb with
        | null => exact arithmetic.admits_null_right
        | integer => exact arithmetic.float_integer _ _
  · cases ha with
    | null => exact arithmetic.admits_null_left
    | float =>
        cases hb with
        | null => exact arithmetic.admits_null_right
        | float => exact arithmetic.floats _ _

end IsArithmetic

theorem admits_bitwise {onBits : Int64 → Int64 → Int64} {onTruth : Bool → Bool → Bool}
    (gives : bitOr.resultType? left right = some type) (ha : left.Admits a)
    (hb : right.Admits b) : type.Admits (bitwise onBits onTruth a b) := by
  simp only [resultType?] at gives
  split at gives
  · cases gives
    cases ha with
    | null => exact .null
    | integer => cases hb <;> first | exact .null | exact .integer
  · cases gives
    cases ha with
    | null => exact .null
    | boolean => cases hb <;> first | exact .null | exact .boolean
  · cases gives

theorem admits_onIntegers {compute : Int64 → Int64 → Int64}
    (gives : shiftLeft.resultType? left right = some type) :
    type.Admits (onIntegers compute a b) := by
  simp only [resultType?] at gives
  split at gives
  · cases gives
    unfold onIntegers
    split
    · exact .integer
    · exact .null
  · cases gives

theorem admits_sum (gives : add.resultType? left right = some type) (ha : left.Admits a)
    (hb : right.Admits b) : type.Admits (sum a b) := by
  simp only [resultType?] at gives
  split at gives
  · cases gives
    cases ha with
    | null => exact .null
    | string => cases hb <;> first | exact .null | exact .string
  · cases gives
    cases ha with
    | null => exact .null
    | timeSpan =>
        cases hb with
        | null => exact .null
        | timeSpan => exact .orNull (fun _ => .timeSpan) _
  · cases gives
    cases ha with
    | null => exact .null
    | dateTime =>
        cases hb with
        | null => exact .null
        | timeSpan => exact .orNull (fun _ => .dateTime) _
  · exact sum_isArithmetic.admits gives ha hb

theorem admits_difference (gives : subtract.resultType? left right = some type)
    (ha : left.Admits a) (hb : right.Admits b) : type.Admits (difference a b) := by
  simp only [resultType?] at gives
  split at gives
  · cases gives
    cases ha with
    | null => exact .null
    | timeSpan =>
        cases hb with
        | null => exact .null
        | timeSpan => exact .orNull (fun _ => .timeSpan) _
  · cases gives
    cases ha with
    | null => exact .null
    | dateTime => cases hb <;> first | exact .null | exact .timeSpan
  · cases gives
    cases ha with
    | null => exact .null
    | dateTime =>
        cases hb with
        | null => exact .null
        | timeSpan => exact .orNull (fun _ => .dateTime) _
  · exact difference_isArithmetic.admits gives ha hb

/-- A binary operator gives a value of the type that it gives for the types of its operands. -/
theorem admits_apply [BEq ρ] {op : BinaryOp} (gives : op.resultType? left right = some type)
    (ha : left.Admits a) (hb : right.Admits b) : type.Admits (op.apply a b) := by
  cases op with
  | or | and | equal | notEqual | less | lessEqual | greater | greaterEqual =>
      obtain ⟨_, ⟨⟩⟩ := Option.ite_none_right_eq_some.1 gives
      exact .boolean
  | bitOr | bitXor | bitAnd => exact admits_bitwise gives ha hb
  | shiftLeft | shiftRight => exact admits_onIntegers gives
  | add => exact admits_sum gives ha hb
  | subtract => exact admits_difference gives ha hb
  | multiply => exact product_isArithmetic.admits gives ha hb
  | divide | modulo => exact (dividing_isArithmetic _ _).admits gives ha hb

end BinaryOp

/-! ## Functions and questions -/

theorem ValueType.Admits.orNull_toOption {ε α : Type} {type : ValueType ρ} {make : α → Value ρ}
    (makes : ∀ value, type.Admits (make value)) (result : Except ε α) :
    type.Admits (.orNull id (make <$> result).toOption) := by
  cases result with
  | error fault => exact .null
  | ok value => exact makes value

theorem Function.admits_apply {function : Function} {arguments : List (Value ρ)} :
    (function.resultType : ValueType ρ).Admits
      (.orNull id (function.apply arguments).toOption) := by
  cases function with
  | dateTime | dateTimeByFormat => exact .orNull_toOption (fun _ => .dateTime) _
  | timeSpan => exact .orNull_toOption (fun _ => .timeSpan) _

theorem Quantifier.admits_answer {quantifier : Quantifier} {passes : Value ρ → Bool}
    {elements : List (Value ρ)} :
    (quantifier.resultType : ValueType ρ).Admits (quantifier.answer passes elements) := by
  cases quantifier with
  | any | all => exact .boolean
  | count => exact .integer

end RecordQuery
