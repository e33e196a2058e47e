import RecordQuery.Number.Binary64
import RecordQuery.Query.Operator
import RecordQuery.Record.Value

/-!
# What operators compute

Integers are computed modulo `2 ^ 64` into the signed range, and a shift counts modulo 64.
A quotient of integers is cut toward zero, and the remainder has the sign of the dividend;
with the divisor zero there is no value.  If one operand is a float, both are computed as
floats.  Sums and differences of times that are out of range have no value either.  An
operator has the value null where an operand is null or does not fit, but comparisons and
the logical operators are never null: what cannot be compared is neither less nor greater.
-/

set_option autoImplicit false

namespace RecordQuery

variable {ρ : Type}

/-- The value that there may be, or null. -/
def Value.orNull {α : Type} (make : α → Value ρ) (value? : Option α) : Value ρ :=
  value?.elim .null make

namespace UnaryOp

/-- What a unary operator makes of a value. -/
def apply (op : UnaryOp) (operand : Value ρ) : Value ρ :=
  match op, operand with
  | negate, .integer n => .integer (-n)
  | negate, .float x => .float (-x)
  | negate, .timeSpan span => .timeSpan span.negate
  | not, .boolean value => .boolean !value
  | bitNot, .integer n => .integer (~~~n)
  | bitNot, .boolean value => .boolean !value
  | _, _ => .null

end UnaryOp

namespace BinaryOp

/-- The values stand in an order that `accepts` accepts. -/
def ordered (accepts : Ordering → Bool) (left right : Value ρ) : Value ρ :=
  .boolean ((left.compare? right).any accepts)

/-- An operator on bits or truth values. -/
def bitwise (onBits : Int64 → Int64 → Int64) (onTruth : Bool → Bool → Bool)
    (left right : Value ρ) : Value ρ :=
  match left, right with
  | .integer a, .integer b => .integer (onBits a b)
  | .boolean a, .boolean b => .boolean (onTruth a b)
  | _, _ => .null

/-- An operator on integers alone. -/
def onIntegers (compute : Int64 → Int64 → Int64) (left right : Value ρ) : Value ρ :=
  match left, right with
  | .integer a, .integer b => .integer (compute a b)
  | _, _ => .null

/-- An operator on numbers that are taken as floats. -/
def onFloats (compute : Float → Float → Float) (left right : Value ρ) : Value ρ :=
  match left.float?, right.float? with
  | some x, some y => .float (compute x y)
  | _, _ => .null

/-- A quotient or remainder; two integers have none if the second one is zero. -/
def dividing (integers : Int64 → Int64 → Int64) (floats : Float → Float → Float)
    (left right : Value ρ) : Value ρ :=
  match left, right with
  | .integer a, .integer b => if b = 0 then .null else .integer (integers a b)
  | left, right => onFloats floats left right

/-- The sum of two values. -/
def sum (left right : Value ρ) : Value ρ :=
  match left, right with
  | .integer a, .integer b => .integer (a + b)
  | .string a, .string b => .string (a ++ b)
  | .timeSpan a, .timeSpan b => .orNull .timeSpan (a.add? b)
  | .dateTime a, .timeSpan b => .orNull .dateTime (a.add? b)
  | left, right => onFloats (· + ·) left right

/-- The difference of two values. -/
def difference (left right : Value ρ) : Value ρ :=
  match left, right with
  | .integer a, .integer b => .integer (a - b)
  | .timeSpan a, .timeSpan b => .orNull .timeSpan (a.sub? b)
  | .dateTime a, .dateTime b => .timeSpan (a.since b)
  | .dateTime a, .timeSpan b => .orNull .dateTime (a.sub? b)
  | left, right => onFloats (· - ·) left right

/-- The product of two values. -/
def product (left right : Value ρ) : Value ρ :=
  match left, right with
  | .integer a, .integer b => .integer (a * b)
  | left, right => onFloats (· * ·) left right

/-- What a binary operator makes of two values. -/
def apply [BEq ρ] (op : BinaryOp) (left right : Value ρ) : Value ρ :=
  match op with
  | or => .boolean (left.isTrue || right.isTrue)
  | and => .boolean (left.isTrue && right.isTrue)
  | bitOr => bitwise (· ||| ·) (· || ·) left right
  | bitXor => bitwise (· ^^^ ·) (· ^^ ·) left right
  | bitAnd => bitwise (· &&& ·) (· && ·) left right
  | equal => .boolean (left.looseEq right)
  | notEqual => .boolean !left.looseEq right
  | less => ordered (· == .lt) left right
  | lessEqual => ordered (· != .gt) left right
  | greater => ordered (· == .gt) left right
  | greaterEqual => ordered (· != .lt) left right
  | shiftLeft => onIntegers (· <<< ·) left right
  | shiftRight => onIntegers (· >>> ·) left right
  | add => sum left right
  | subtract => difference left right
  | multiply => product left right
  | divide => dividing (· / ·) (· / ·) left right
  | modulo => dividing (· % ·) Number.remainder left right

end BinaryOp

end RecordQuery
