import RecordQuery.Query.Error
import RecordQuery.Query.Expr
import RecordQuery.Text.Lowercase

/-!
# Types of expressions

How an expression is built from parts whose types are known, and what is wrong when they do
not fit.  Names of members are looked up without regard to case, and the beginning of a
name is enough where no other name begins like it.  Work on literals that needs no input
is done at once: calls are carried out, regular expressions are read.
-/

set_option autoImplicit false

namespace RecordQuery

variable {ρ : Type}

/-! ## Members -/

namespace ValueType

/-- The members that a name may stand for: the first one with just this name, or all that
begin with it.  Case does not count. -/
def candidates (members : List (Member ρ)) (name : String) : List (Member ρ) :=
  let wanted := Text.lowercase name
  match members.find? fun member => Text.lowercase member.name = wanted with
  | some member => [member]
  | none =>
    members.filter fun member =>
      wanted.toList.isPrefixOf (Text.lowercase member.name).toList

/-- The member of a type that a name stands for. -/
def resolveMember (owner : ValueType ρ) (name : String) : Except Cause (Member ρ) :=
  match candidates owner.members name with
  | [] => .error (.memberNotFound name owner.display)
  | [member] => .ok member
  | several => .error (.ambiguousMember name (several.map (·.name)))

end ValueType

/-! ## Operators -/

namespace ValueType

/-- The type of a result of arithmetic: a float, unless both operands are integers. -/
def arithmetic? : ValueType ρ → ValueType ρ → Option (ValueType ρ)
  | .integer, .integer => some .integer
  | left, right => if left.isNumeric && right.isNumeric then some .float else none

/-- The two types have an order in common. -/
def isOrdered : ValueType ρ → ValueType ρ → Bool
  | .string, .string | .timeSpan, .timeSpan | .dateTime, .dateTime => true
  | left, right => left.isNumeric && right.isNumeric

/-- The two types have an equality in common. -/
def isComparable : ValueType ρ → ValueType ρ → Bool
  | .boolean, .boolean => true
  | left, right => left.isOrdered right

end ValueType

namespace BinaryOp

/-- The type of what an operator gives on operands of two types, if it takes them. -/
def resultType? (op : BinaryOp) (left right : ValueType ρ) : Option (ValueType ρ) :=
  match op with
  | or | and => if left.isBoolean && right.isBoolean then some .boolean else none
  | bitOr | bitXor | bitAnd =>
    match left, right with
    | .integer, .integer => some .integer
    | .boolean, .boolean => some .boolean
    | _, _ => none
  | equal | notEqual => if left.isComparable right then some .boolean else none
  | less | lessEqual | greater | greaterEqual =>
    if left.isOrdered right then some .boolean else none
  | shiftLeft | shiftRight =>
    match left, right with
    | .integer, .integer => some .integer
    | _, _ => none
  | add =>
    match left, right with
    | .string, .string => some .string
    | .timeSpan, .timeSpan => some .timeSpan
    | .dateTime, .timeSpan => some .dateTime
    | left, right => left.arithmetic? right
  | subtract =>
    match left, right with
    | .timeSpan, .timeSpan | .dateTime, .dateTime => some .timeSpan
    | .dateTime, .timeSpan => some .dateTime
    | left, right => left.arithmetic? right
  | multiply | divide | modulo => left.arithmetic? right

end BinaryOp

namespace UnaryOp

/-- An operator takes operands of a type. -/
def takes (op : UnaryOp) (type : ValueType ρ) : Bool :=
  match op, type with
  | negate, .integer | negate, .float | negate, .timeSpan => true
  | not, .boolean => true
  | bitNot, .integer | bitNot, .boolean => true
  | _, _ => false

end UnaryOp

/-! ## Expressions -/

namespace Expr

/-- The member of an expression that a name stands for. -/
def ofMember (base : Expr ρ) (name : String) : Except Cause (Expr ρ) :=
  (base.type.resolveMember name).map fun found => .member base found

/-- A unary operator, spelled `symbol`, with its operand. -/
def ofUnary (op : UnaryOp) (symbol : String) (operand : Expr ρ) : Except Cause (Expr ρ) :=
  if op.takes operand.type then .ok (.unary op operand)
  else .error (.badOperand symbol operand.type.display)

/-- The regular expression that the right operand of a pattern operator is, where it can be
read at once. -/
def readRegex (op : PatternOp) (right : Expr ρ) : Except Cause (Option Regex.Pattern) :=
  match op.isRegex, right.literal? with
  | true, some (.string written) =>
    match Regex.Pattern.ofChars written.toList with
    | .ok regex => .ok (some regex)
    | .error fault => .error (.invalidPattern fault)
  | _, _ => .ok none

/-- A binary operator with its operands. -/
def ofBinary (entry : BinaryEntry) (left right : Expr ρ) : Except Cause (Expr ρ) :=
  let mismatch : Cause := .badOperands entry.mark.text left.type.display right.type.display
  match entry.operator with
  | .value op =>
    match op.resultType? left.type right.type with
    | some type => .ok (.binary op type left right)
    | none => .error mismatch
  | .pattern op =>
    if left.type.isString && right.type.isString then
      (readRegex op right).map fun regex? => .pattern op regex? left right
    else .error mismatch

/-- The literal that a value of time is. -/
def literalOfTime? : Value ρ → Option Literal
  | .dateTime point => some (.dateTime point)
  | .timeSpan span => some (.timeSpan span)
  | _ => none

/-- A call whose arguments are all literals, carried out. -/
def fold (function : Function) (arguments : List Literal) : Except Cause (Expr ρ) :=
  match function.apply (arguments.map Literal.toValue : List (Value ρ)) with
  | .ok value =>
    match literalOfTime? value with
    | some folded => .ok (.literal folded)
    | none => .error .unexpectedResult
  | .error fault => .error (.rejectedArgument fault)

/-- A call of the function with a name. -/
def ofCall (name : String) (arguments : List (Expr ρ)) : Except Cause (Expr ρ) :=
  match Function.resolve? name arguments.length with
  | none => .error (.unknownFunction name arguments.length)
  | some function =>
    match arguments.find? fun argument => !argument.type.same function.parameterType with
    | some argument =>
      let expected : ValueType ρ := function.parameterType
      .error (.badArgument function.name expected.display argument.type.display)
    | none =>
      match arguments.mapM Expr.literal? with
      | some literals => fold function literals
      | none => .ok (.call function arguments)

end Expr

end RecordQuery
