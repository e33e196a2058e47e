import RecordQuery.Query.Parser

/-!
# A parser with a stack of contexts

The readers of the parser are handed the types in scope.  Here they share a stack of contexts
instead, one for each question around an expression and one for the query, the outermost first.  A
question pushes a context for its elements, reads its block, and pops the context, whether the block
was read or not (`StackReading.nested`).  All other errors end the reading at once.

A context is reached by its place in the stack.  Whether there is one is checked, and a reading that
comes to a place without a context ends in a way of its own (`Halt.noContext`).  All stacks that
there ever were are kept, so that something can be said about all of them.
-/

set_option autoImplicit false

namespace RecordQuery

variable {ρ α : Type}

/-! ## Contexts -/

/-- A level of nesting: its depth, and the type of its input. -/
structure Context (ρ : Type) where
  depth : Nat
  type : ValueType ρ

/-- The stack of contexts, from the outside in, and all stacks so far. -/
structure Contexts (ρ : Type) where
  stack : List (Context ρ)
  past : List (List (Context ρ))

namespace Contexts

/-- The stack outside of all questions. -/
def root (type : ValueType ρ) : Contexts ρ := ⟨[⟨0, type⟩], [[⟨0, type⟩]]⟩

/-- Another stack in the place of the present one. -/
def change (contexts : Contexts ρ) (stack : List (Context ρ)) : Contexts ρ :=
  ⟨stack, stack :: contexts.past⟩

end Contexts

/-! ## Readings -/

/-- Why a reading ends without a result: an error in the query, or a context that is not there. -/
inductive Halt where
  | stuck (stuck : Stuck)
  | noContext

/-- A reading that may change the contexts.  The changes stay when it fails. -/
abbrev StackReading (ρ : Type) := ExceptT Halt (StateM (Contexts ρ))

namespace StackReading

/-- How a reading that begins in some contexts ends, and the contexts that it leaves. -/
def outcome (reading : StackReading ρ α) (contexts : Contexts ρ) : Except Halt α × Contexts ρ :=
  (reading.run.run contexts).run

/-- A reading without contexts. -/
def ofExcept (result : Except Stuck α) : StackReading ρ α :=
  ExceptT.mk (pure (result.mapError .stuck))

/-- Ends with an error. -/
def fail (stuck : Stuck) : StackReading ρ α := throw (.stuck stuck)

/-- A context that has to be there. -/
def found (context? : Option (Context ρ)) : StackReading ρ (Context ρ) :=
  match context? with
  | some context => return context
  | none => throw .noContext

/-- The innermost context. -/
def top : StackReading ρ (Context ρ) := do found (← get).stack.getLast?

/-- The context in a place of the stack. -/
def inPlace (place : Nat) : StackReading ρ (Context ρ) := do found (← get).stack[place]?

/-- Reads with one more context.  It is popped in any case. -/
def nested (context : Context ρ) (reading : StackReading ρ α) : StackReading ρ α := do
  modify fun contexts => contexts.change (contexts.stack ++ [context])
  let result ← ExceptT.lift reading.run
  modify fun contexts => contexts.change contexts.stack.dropLast
  match result with
  | .ok value => return value
  | .error halt => throw halt

end StackReading

/-! ## Readers -/

/-- A parser with its stack of contexts. -/
structure StackParser (ρ : Type) where
  now : DateTime
  cursor : Cursor
  contexts : Contexts ρ

namespace StackParser

open Cursor (Later NotEarlier)
open StackReading (ofExcept fail top inPlace nested)

mutual

/-- Reads an expression whose binary operators bind tighter than the floor. -/
def expression (now : DateTime) (floor : Int) (cursor : Cursor) :
    StackReading ρ (Later cursor (Expr ρ)) := do
  let ⟨first, next, _⟩ ← primary now cursor
  let ⟨left, next, _⟩ ← ofExcept (Parser.suffixes first next)
  let ⟨whole, next, _⟩ ← continuation now floor left next
  return ⟨whole, next, by omega⟩
termination_by 3 * cursor.rest.length + 1
decreasing_by all_goals omega

/-- Reads an expression without operators behind its first part. -/
def primary (now : DateTime) (cursor : Cursor) : StackReading ρ (Later cursor (Expr ρ)) := do
  let ⟨token, next, shorter⟩ ← ofExcept (Parser.firstToken cursor)
  match token.kind with
  | .identifier =>
    if (← ofExcept next.peek).kind = .mark .parenthesisOpen then
      let ⟨arguments, next, _⟩ ← arguments now next
      let whole ← ofExcept (next.settle token (Expr.ofCall token.lexeme arguments))
      return ⟨whole, next, by omega⟩
    else
      let context ← top
      let base : Expr ρ := .input context.depth context.type
      let whole ← ofExcept (next.settle token (base.ofMember token.lexeme))
      return ⟨whole, next, shorter⟩
  | .now => return ⟨.literal (.dateTime now), next, shorter⟩
  | .input =>
    let levels := token.lexeme.toList.length - 1
    let context ← top
    if context.depth < levels then
      fail (next.blame token (.noSuchInput token.lexeme levels context.depth))
    else
      let target ← inPlace (context.depth - levels)
      return ⟨.input target.depth target.type, next, shorter⟩
  | .literal =>
    match token.literal? with
    | some value => return ⟨.literal value, next, shorter⟩
    | none => fail (next.blame token .literalWithoutValue)
  | .mark .parenthesisOpen =>
    let ⟨inner, next, _⟩ ← expression now lowestPrecedence next
    let ⟨_, next, _⟩ ← ofExcept (next.take (.mark .parenthesisClose))
    return ⟨inner, next, by omega⟩
  | .mark mark =>
    match mark.unary? with
    | some op =>
      let ⟨operand, next, _⟩ ← expression now lowestPrecedence next
      let whole ← ofExcept (next.settle token (Expr.ofUnary op token.lexeme operand))
      return ⟨whole, next, by omega⟩
    | none => fail (next.blame token (.expectedExpression token))
  | _ => fail (next.blame token (.expectedExpression token))
termination_by 3 * cursor.rest.length
decreasing_by all_goals omega

/-- Reads the arguments of a call with their parentheses. -/
def arguments (now : DateTime) (cursor : Cursor) :
    StackReading ρ (Later cursor (List (Expr ρ))) := do
  let ⟨_, next, _⟩ ← ofExcept (cursor.take (.mark .parenthesisOpen))
  match ← ofExcept (next.tryTake (.mark .parenthesisClose)) with
  | some ⟨_, next, _⟩ => return ⟨[], next, by omega⟩
  | none =>
    let ⟨values, next, _⟩ ← listed now next
    let ⟨_, next, _⟩ ← ofExcept (next.take (.mark .parenthesisClose))
    return ⟨values, next, by omega⟩
termination_by 3 * cursor.rest.length
decreasing_by omega

/-- Reads expressions with commas between them. -/
def listed (now : DateTime) (cursor : Cursor) : StackReading ρ (Later cursor (List (Expr ρ))) := do
  let ⟨value, next, _⟩ ← expression now lowestPrecedence cursor
  match ← ofExcept (next.tryTake (.mark .comma)) with
  | some ⟨_, next, _⟩ =>
    let ⟨values, next, _⟩ ← listed now next
    return ⟨value :: values, next, by omega⟩
  | none => return ⟨[value], next, by omega⟩
termination_by 3 * cursor.rest.length + 2
decreasing_by all_goals omega

/-- Reads questions and binary operators behind an expression. -/
def continuation (now : DateTime) (floor : Int) (left : Expr ρ) (cursor : Cursor) :
    StackReading ρ (NotEarlier cursor (Expr ρ)) := do
  let ⟨token, next, _, shorter⟩ ← ofExcept cursor.lookahead
  match kind : token.kind with
  | .quantifier =>
    have shorter := shorter (by rw [kind]; nofun)
    let ⟨left, next, _⟩ ← question now left token next
    let ⟨whole, next, _⟩ ← continuation now floor left next
    return ⟨whole, next, by omega⟩
  | .mark mark =>
    have shorter := shorter (by rw [kind]; nofun)
    match mark.binary? with
    | some entry =>
      if entry.precedence ≤ floor then return ⟨left, cursor, Nat.le_refl _⟩
      else
        let ⟨right, next, _⟩ ← expression now entry.precedence next
        let left ← ofExcept (next.settle token (Expr.ofBinary entry left right))
        let ⟨whole, next, _⟩ ← continuation now floor left next
        return ⟨whole, next, by omega⟩
    | none => return ⟨left, cursor, Nat.le_refl _⟩
  | _ => return ⟨left, cursor, Nat.le_refl _⟩
termination_by 3 * cursor.rest.length
decreasing_by all_goals omega

/-- Reads the braces of a question about the elements of `source`, in a context of their own. -/
def question (now : DateTime) (source : Expr ρ) (keyword : Token) (cursor : Cursor) :
    StackReading ρ (Later cursor (Expr ρ)) := do
  let quantifier := (Quantifier.ofWord? keyword.lexeme).getD .any
  let some element := source.type.element?
    | fail (cursor.blame keyword (.notASequence keyword.lexeme source.type.display))
  let ⟨_, next, _⟩ ← ofExcept (cursor.take (.mark .blockOpen))
  let depth := (← top).depth + 1
  let ⟨predicate, next, _⟩ ← nested ⟨depth, element⟩ (expression now lowestPrecedence next)
  if !predicate.type.isBoolean then
    fail (next.blame keyword (.blockNotBoolean predicate.type.display))
  let ⟨_, next, _⟩ ← ofExcept (next.take (.mark .blockClose))
  return ⟨.nested quantifier depth source predicate, next, by omega⟩
termination_by 3 * cursor.rest.length
decreasing_by omega

end

/-- Reads an expression of boolean type and the end of the query. -/
def query (now : DateTime) (cursor : Cursor) : StackReading ρ (NotEarlier cursor (Expr ρ)) := do
  let whole ← expression now lowestPrecedence cursor
  let ⟨ending, _⟩ ← ofExcept (whole.next.require .endOfInput)
  if !whole.value.type.isBoolean then
    fail ⟨⟨cursor.source, 0, ending.token.start, .queryNotBoolean whole.value.type.display⟩,
      ending.next⟩
  return ⟨whole.value, ending.next,
    Nat.le_of_lt (Nat.lt_of_le_of_lt ending.no_longer whole.shorter)⟩

end StackParser

/-! ## Calls -/

/-- What a caller can ask a parser to read next. -/
inductive Parser.Call where
  | expression (floor : Int)
  | query

namespace Parser

/-- The answer to a call, and the parser after it. -/
def call (parser : Parser ρ) : Call → Except CompileError (Expr ρ) × Parser ρ
  | .expression floor => parser.nextExpression floor
  | .query => parser.nextQuery

/-- The parser after some calls. -/
def after (parser : Parser ρ) (calls : List Call) : Parser ρ :=
  calls.foldl (fun parser call => (parser.call call).2) parser

end Parser

namespace StackParser

/-- A parser that was not asked for anything yet. -/
def fresh (now : DateTime) (type : ValueType ρ) (cursor : Cursor) : StackParser ρ :=
  ⟨now, cursor, .root type⟩

/-- What a parser has read, or the error, and the parser after it.  There is no answer where a
context was not there. -/
def step (parser : StackParser ρ) (reading : StackReading ρ (α × Cursor)) :
    Option (Except CompileError α) × StackParser ρ :=
  match reading.outcome parser.contexts with
  | (.ok (value, next), contexts) => (some (.ok value), ⟨parser.now, next, contexts⟩)
  | (.error (.stuck stuck), contexts) =>
    (some (.error stuck.error), ⟨parser.now, stuck.cursor, contexts⟩)
  | (.error .noContext, contexts) => (none, { parser with contexts })

/-- The answer to a call, and the parser after it. -/
def call (parser : StackParser ρ) :
    Parser.Call → Option (Except CompileError (Expr ρ)) × StackParser ρ
  | .expression floor =>
    parser.step do
      let read ← expression parser.now floor parser.cursor
      return (read.value, read.next)
  | .query =>
    parser.step do
      let read ← query parser.now parser.cursor
      return (read.value, read.next)

/-- The parser after some calls. -/
def after (parser : StackParser ρ) (calls : List Parser.Call) : StackParser ρ :=
  calls.foldl (fun parser call => (parser.call call).2) parser

end StackParser

end RecordQuery
