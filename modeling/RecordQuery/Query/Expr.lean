import RecordQuery.Query.Function
import RecordQuery.Query.Token
import RecordQuery.Regex.Pattern

/-!
# Expressions

The tree of a query.  Every part of it has a type, which was found when it was read; a tree
whose types do not fit is never built.  The input of the query stands at depth zero, and
each nested query asks about its elements one level deeper.
-/

set_option autoImplicit false

namespace RecordQuery

/-- An expression over records of type `ρ`. -/
inductive Expr (ρ : Type) where
  | literal (value : Literal)
  /-- The input at a depth. -/
  | input (depth : Nat) (type : ValueType ρ)
  | member (base : Expr ρ) (member : Member ρ)
  | unary (op : UnaryOp) (operand : Expr ρ)
  | binary (op : BinaryOp) (type : ValueType ρ) (left right : Expr ρ)
  /-- A comparison with a pattern; a regular expression that is a literal was read before. -/
  | pattern (op : PatternOp) (regex? : Option Regex.Pattern) (left right : Expr ρ)
  | call (function : Function) (arguments : List (Expr ρ))
  /-- A question about the elements of a sequence, which are the inputs at `depth`. -/
  | nested (quantifier : Quantifier) (depth : Nat) (source predicate : Expr ρ)

namespace Quantifier

/-- The type of the answer about the elements of a sequence. -/
def resultType {ρ : Type} : Quantifier → ValueType ρ
  | any | all => .boolean
  | count => .integer

end Quantifier

namespace Expr

variable {ρ : Type}

/-- The type of an expression. -/
def type : Expr ρ → ValueType ρ
  | .literal value => value.type
  | .input _ type => type
  | .member _ read => read.type
  | .unary _ operand => operand.type
  | .binary _ type _ _ => type
  | .pattern _ _ _ _ => .boolean
  | .call function _ => function.resultType
  | .nested quantifier _ _ _ => quantifier.resultType

/-- The literal that an expression is, if it is one. -/
def literal? : Expr ρ → Option Literal
  | .literal value => some value
  | _ => none

end Expr

end RecordQuery
