import RecordQuery.Query.Expr
import RecordQuery.Query.Operation
import RecordQuery.Query.PatternTest

/-!
# Evaluating expressions

An expression is evaluated over frames: the input of the query, and above it the current
element of every question that is being answered.  A question puts each element in turn
into the frame of its depth, and drops the frame when it is answered.  The logical
operators look at their right operand only where the left one leaves the answer open, and
a question looks at no more elements than it needs.

Evaluation always gives a value.  What cannot be computed is null.
-/

set_option autoImplicit false

namespace RecordQuery

variable {ρ : Type}

/-- The inputs that can be asked for, from the outside in. -/
structure Frames (ρ : Type) where
  inputs : List (Value ρ)

namespace Frames

/-- The frames of a query that has just begun. -/
def start (input : Value ρ) : Frames ρ := ⟨[input]⟩

/-- The input at a depth; null where there is none. -/
def input (frames : Frames ρ) (depth : Nat) : Value ρ := frames.inputs[depth]?.getD .null

/-- Drops the frames from a depth on. -/
def leave (frames : Frames ρ) (depth : Nat) : Frames ρ := ⟨frames.inputs.take depth⟩

/-- Puts an element into the frame of a depth, in the place of those from there on. -/
def enter (frames : Frames ρ) (depth : Nat) (element : Value ρ) : Frames ρ :=
  ⟨frames.inputs.take depth ++ [element]⟩

end Frames

/-- A computation over frames, which it may leave changed. -/
abbrev Evaluation (ρ : Type) := StateM (Frames ρ)

namespace Quantifier

/-- Asks about elements, each put into the frame of `depth` before it is tested; `counted`
of the elements before them have passed. -/
def ask (quantifier : Quantifier) (depth : Nat) (test : Evaluation ρ Bool) (counted : Nat) :
    List (Value ρ) → Evaluation ρ (Value ρ)
  | [] =>
    return match quantifier with
      | any => .boolean false
      | all => .boolean true
      | count => .integer (Int64.ofNat counted)
  | element :: elements => do
    modify (·.enter depth element)
    match quantifier, ← test with
    | any, true => return .boolean true
    | all, false => return .boolean false
    | count, true => ask quantifier depth test (counted + 1) elements
    | _, _ => ask quantifier depth test counted elements

end Quantifier

namespace Expr

mutual

/-- The value of an expression. -/
def eval [BEq ρ] : Expr ρ → Evaluation ρ (Value ρ)
  | .literal value => return value.toValue
  | .input depth _ => return (← get).input depth
  | .member base read => return read.readFrom (← base.eval)
  | .unary op operand => return op.apply (← operand.eval)
  | .binary .and _ left right => do
    if (← left.eval).isTrue then return .boolean (← right.eval).isTrue
    else return .boolean false
  | .binary .or _ left right => do
    if (← left.eval).isTrue then return .boolean true
    else return .boolean (← right.eval).isTrue
  | .binary op _ left right => do
    let leftValue ← left.eval
    let rightValue ← right.eval
    return op.apply leftValue rightValue
  | .pattern op (some regex) left _ => do
    return .boolean (op.applyRegex (← left.eval).string? regex)
  | .pattern op none left right => do
    let text ← left.eval
    let written ← right.eval
    return .boolean (op.apply text.string? written.string?)
  | .call function arguments => do
    return .orNull id (function.apply (← evalAll arguments)).toOption
  | .nested quantifier depth source predicate => do
    let elements := (← source.eval).items
    let answer ← quantifier.ask depth (Value.isTrue <$> predicate.eval) 0 elements
    modify (·.leave depth)
    return answer

/-- The values of expressions, one after another. -/
def evalAll [BEq ρ] : List (Expr ρ) → Evaluation ρ (List (Value ρ))
  | [] => return []
  | expr :: exprs => do
    let value ← expr.eval
    return value :: (← evalAll exprs)

end

/-- The value of an expression over the input of a query. -/
def valueOn [BEq ρ] (expr : Expr ρ) (input : Value ρ) : Value ρ :=
  (expr.eval.run (.start input)).1

/-- An expression of boolean type is true of the input of a query. -/
def holdsOn [BEq ρ] (expr : Expr ρ) (input : Value ρ) : Bool := (expr.valueOn input).isTrue

end Expr

end RecordQuery
