import RecordQuery.Query.Cursor
import RecordQuery.Query.Typing

/-!
# Reading queries

A query is an expression of boolean type up to the end of the text.  An expression is a
primary expression with members read from it, followed by questions about its elements
and by binary operators that bind tighter than a floor; the right operand of an operator
is read with the precedence of the operator as its floor, so that operators that bind
alike group to the left.  The operand of a unary operator reaches as far as it can.

In the braces of a question the elements are the input.  The inputs around it are reached
by more than one `$`; a name alone is a member of the innermost one.

The first error ends the reading.  It leaves a cursor behind, from which reading can go on.
-/

set_option autoImplicit false

namespace RecordQuery

variable {ρ : Type}

/-- The types of the inputs that an expression can ask for: the innermost, and those around
it from the inside out. -/
structure Scope (ρ : Type) where
  current : ValueType ρ
  outer : List (ValueType ρ)

namespace Scope

/-- The number of questions around an expression. -/
def depth (scope : Scope ρ) : Nat := scope.outer.length

/-- The scope inside a question about elements of a type. -/
def enter (scope : Scope ρ) (element : ValueType ρ) : Scope ρ :=
  ⟨element, scope.current :: scope.outer⟩

/-- The innermost input. -/
def input (scope : Scope ρ) : Expr ρ := .input scope.depth scope.current

/-- The input that a run of `$` asks for. -/
def inputOf (scope : Scope ρ) (lexeme : String) : Except Cause (Expr ρ) :=
  let levels := lexeme.toList.length - 1
  match (scope.current :: scope.outer)[levels]? with
  | some type => .ok (.input (scope.depth - levels) type)
  | none => .error (.noSuchInput lexeme levels scope.depth)

end Scope

namespace Parser

open Cursor (Later NotEarlier)

/-! ## Expressions -/

/-- Reads members off an expression. -/
def suffixes (base : Expr ρ) (cursor : Cursor) : Except Stuck (NotEarlier cursor (Expr ρ)) := do
  match ← cursor.tryTake (.mark .dot) with
  | none => return ⟨base, cursor, Nat.le_refl _⟩
  | some ⟨_, next, _⟩ =>
    let ⟨name, next, _⟩ ← next.take .identifier
    let base ← next.settle name (base.ofMember name.lexeme)
    let ⟨whole, next, _⟩ ← suffixes base next
    return ⟨whole, next, by omega⟩
termination_by cursor.rest.length
decreasing_by omega

/-- Reads the token that an expression begins with, which is not the end. -/
def firstToken (cursor : Cursor) : Except Stuck (Later cursor Token) := do
  let ⟨token, next, _, shorter⟩ ← cursor.pop
  if ended : token.kind = .endOfInput then
    throw (next.blame token (.expectedExpression token))
  else return ⟨token, next, shorter ended⟩

mutual

/-- Reads an expression whose binary operators bind tighter than the floor. -/
def expression (now : DateTime) (scope : Scope ρ) (floor : Int) (cursor : Cursor) :
    Except Stuck (Later cursor (Expr ρ)) := do
  let ⟨first, next, _⟩ ← primary now scope cursor
  let ⟨left, next, _⟩ ← suffixes first next
  let ⟨whole, next, _⟩ ← continuation now scope floor left next
  return ⟨whole, next, by omega⟩
termination_by 3 * cursor.rest.length + 1
decreasing_by all_goals omega

/-- Reads an expression without operators behind its first part. -/
def primary (now : DateTime) (scope : Scope ρ) (cursor : Cursor) :
    Except Stuck (Later cursor (Expr ρ)) := do
  let ⟨token, next, shorter⟩ ← firstToken cursor
  match token.kind with
  | .identifier =>
    if (← next.peek).kind = .mark .parenthesisOpen then
      let ⟨arguments, next, _⟩ ← arguments now scope next
      return ⟨← next.settle token (Expr.ofCall token.lexeme arguments), next, by omega⟩
    else return ⟨← next.settle token (scope.input.ofMember token.lexeme), next, shorter⟩
  | .now => return ⟨.literal (.dateTime now), next, shorter⟩
  | .input => return ⟨← next.settle token (scope.inputOf token.lexeme), next, shorter⟩
  | .literal =>
    match token.literal? with
    | some value => return ⟨.literal value, next, shorter⟩
    | none => throw (next.blame token .literalWithoutValue)
  | .mark .parenthesisOpen =>
    let ⟨inner, next, _⟩ ← expression now scope lowestPrecedence next
    let ⟨_, next, _⟩ ← next.take (.mark .parenthesisClose)
    return ⟨inner, next, by omega⟩
  | .mark mark =>
    match mark.unary? with
    | some op =>
      let ⟨operand, next, _⟩ ← expression now scope lowestPrecedence next
      return ⟨← next.settle token (Expr.ofUnary op token.lexeme operand), next, by omega⟩
    | none => throw (next.blame token (.expectedExpression token))
  | _ => throw (next.blame token (.expectedExpression token))
termination_by 3 * cursor.rest.length
decreasing_by all_goals omega

/-- Reads the arguments of a call with their parentheses. -/
def arguments (now : DateTime) (scope : Scope ρ) (cursor : Cursor) :
    Except Stuck (Later cursor (List (Expr ρ))) := do
  let ⟨_, next, _⟩ ← cursor.take (.mark .parenthesisOpen)
  match ← next.tryTake (.mark .parenthesisClose) with
  | some ⟨_, next, _⟩ => return ⟨[], next, by omega⟩
  | none =>
    let ⟨values, next, _⟩ ← listed now scope next
    let ⟨_, next, _⟩ ← next.take (.mark .parenthesisClose)
    return ⟨values, next, by omega⟩
termination_by 3 * cursor.rest.length
decreasing_by omega

/-- Reads expressions with commas between them. -/
def listed (now : DateTime) (scope : Scope ρ) (cursor : Cursor) :
    Except Stuck (Later cursor (List (Expr ρ))) := do
  let ⟨value, next, _⟩ ← expression now scope lowestPrecedence cursor
  match ← next.tryTake (.mark .comma) with
  | some ⟨_, next, _⟩ =>
    let ⟨values, next, _⟩ ← listed now scope next
    return ⟨value :: values, next, by omega⟩
  | none => return ⟨[value], next, by omega⟩
termination_by 3 * cursor.rest.length + 2
decreasing_by all_goals omega

/-- Reads what follows an expression: questions about its elements, and binary operators
that bind tighter than the floor, with their right operands. -/
def continuation (now : DateTime) (scope : Scope ρ) (floor : Int) (left : Expr ρ)
    (cursor : Cursor) : Except Stuck (NotEarlier cursor (Expr ρ)) := do
  let ⟨token, next, _, shorter⟩ ← cursor.lookahead
  match kind : token.kind with
  | .quantifier =>
    have shorter := shorter (by rw [kind]; nofun)
    let ⟨left, next, _⟩ ← question now scope left token next
    let ⟨whole, next, _⟩ ← continuation now scope floor left next
    return ⟨whole, next, by omega⟩
  | .mark mark =>
    have shorter := shorter (by rw [kind]; nofun)
    match mark.binary? with
    | some entry =>
      if entry.precedence ≤ floor then return ⟨left, cursor, Nat.le_refl _⟩
      else
        let ⟨right, next, _⟩ ← expression now scope entry.precedence next
        let left ← next.settle token (Expr.ofBinary entry left right)
        let ⟨whole, next, _⟩ ← continuation now scope floor left next
        return ⟨whole, next, by omega⟩
    | none => return ⟨left, cursor, Nat.le_refl _⟩
  | _ => return ⟨left, cursor, Nat.le_refl _⟩
termination_by 3 * cursor.rest.length
decreasing_by all_goals omega

/-- Reads the braces of a question about the elements of `source`. -/
def question (now : DateTime) (scope : Scope ρ) (source : Expr ρ) (keyword : Token)
    (cursor : Cursor) : Except Stuck (Later cursor (Expr ρ)) := do
  let quantifier := (Quantifier.ofWord? keyword.lexeme).getD .any
  let some element := source.type.element?
    | throw (cursor.blame keyword (.notASequence keyword.lexeme source.type.display))
  let ⟨_, next, _⟩ ← cursor.take (.mark .blockOpen)
  let ⟨predicate, next, _⟩ ← expression now (scope.enter element) lowestPrecedence next
  if !predicate.type.isBoolean then
    throw (next.blame keyword (.blockNotBoolean predicate.type.display))
  let ⟨_, next, _⟩ ← next.take (.mark .blockClose)
  return ⟨.nested quantifier (scope.depth + 1) source predicate, next, by omega⟩
termination_by 3 * cursor.rest.length
decreasing_by omega

end

/-- Reads an expression of boolean type and the end of the query. -/
def query (now : DateTime) (scope : Scope ρ) (cursor : Cursor) :
    Except Stuck (NotEarlier cursor (Expr ρ)) := do
  let ⟨whole, next, _⟩ ← expression now scope lowestPrecedence cursor
  let ⟨⟨ending, next, _, _⟩, _⟩ ← next.require .endOfInput
  if !whole.type.isBoolean then
    throw ⟨⟨cursor.source, 0, ending.start, .queryNotBoolean whole.type.display⟩, next⟩
  return ⟨whole, next, by omega⟩

end Parser

/-! ## Parsers -/

/-- A place in a query whose input has a type.  The moment that `@now` stands for is fixed. -/
structure Parser (ρ : Type) where
  now : DateTime
  type : ValueType ρ
  cursor : Cursor

namespace Parser

/-- A parser at the start of a query. -/
def start (now : DateTime) (type : ValueType ρ) (source : String) : Parser ρ :=
  ⟨now, type, Cursor.start source⟩

/-- The scope outside of all questions. -/
def scope (parser : Parser ρ) : Scope ρ := ⟨parser.type, []⟩

/-- What a parser has read, or the error, and the parser after it. -/
def step {α : Type} (parser : Parser ρ) (result : Except Stuck (α × Cursor)) :
    Except CompileError α × Parser ρ :=
  match result with
  | .ok (value, next) => (.ok value, { parser with cursor := next })
  | .error stuck => (.error stuck.error, { parser with cursor := stuck.cursor })

/-- Reads the next expression whose binary operators bind tighter than the floor. -/
def nextExpression (parser : Parser ρ) (floor : Int) :
    Except CompileError (Expr ρ) × Parser ρ :=
  parser.step <| (expression parser.now parser.scope floor parser.cursor).map
    fun read => (read.value, read.next)

/-- Reads a query up to its end. -/
def nextQuery (parser : Parser ρ) : Except CompileError (Expr ρ) × Parser ρ :=
  parser.step <| (query parser.now parser.scope parser.cursor).map
    fun read => (read.value, read.next)

end Parser

/-- The expression of a query whose input has a type. -/
def parse (now : DateTime) (type : ValueType ρ) (source : String) :
    Except CompileError (Expr ρ) :=
  (Parser.start now type source).nextQuery.1

end RecordQuery
