import RecordQuery.Query.Token
import RecordQuery.Regex.Reader
import RecordQuery.Text.Blank
import RecordQuery.Time.Reading

/-!
# Errors of queries

A query that does not compile has one error: a cause and the span of bytes to blame for
it.  The report names the position, gives the message and shows the piece of the query
around the span with a marker below it.  However long the query is, the message, the piece
and the marker are short.
-/

set_option autoImplicit false

namespace RecordQuery

/-- How many characters of a query are shown at once. -/
def contextWidth : Nat := 20

/-- How many characters of a message are kept. -/
def messageWidth : Nat := 200

/-- The first characters of a text, with dots where it was cut. -/
def cutTo (width : Nat) (text : String) : String :=
  if width < text.toList.length then String.ofList (text.toList.take width) ++ "..." else text

/-- A text from the query as messages quote it. -/
def excerpt (text : String) : String := cutTo contextWidth text

/-- A token as messages name it. -/
def Token.describe (token : Token) : String :=
  match token.kind with
  | .endOfInput => "end of input"
  | _ => "'" ++ excerpt token.lexeme ++ "'"

/-- What kind of thing is wrong with a query. -/
inductive ErrorKind where
  | unterminatedString
  | invalidLiteral
  | unexpectedCharacter
  | unexpectedToken
  | memberNotFound
  | ambiguousMember
  | typeMismatch
  | notASequence
  | iteratorDepth
  | unknownFunction
  | invalidPattern
  | notBoolean
deriving DecidableEq, Repr

/-- What is wrong with a query.  Types are kept by the names that messages give them. -/
inductive Cause where
  | unterminatedString
  | integerTooLarge (digits : String)
  | badTime (fault : NotationFault)
  | unexpectedCharacter (c : Char)
  | expectedKind (expected : TokenKind) (found : Token)
  | expectedExpression (found : Token)
  | literalWithoutValue
  | memberNotFound (name owner : String)
  | ambiguousMember (name : String) (candidates : List String)
  | badOperand (operator type : String)
  | badOperands (operator left right : String)
  | badArgument (function expected found : String)
  | unexpectedResult
  | notASequence (quantifier type : String)
  | noSuchInput (lexeme : String) (levels depth : Nat)
  | unknownFunction (name : String) (arity : Nat)
  | invalidPattern (fault : Regex.Fault)
  | rejectedArgument (fault : ReadingFault)
  | queryNotBoolean (type : String)
  | blockNotBoolean (type : String)

namespace Cause

/-- The kind of a cause. -/
def kind : Cause → ErrorKind
  | unterminatedString => .unterminatedString
  | integerTooLarge _ | badTime _ | rejectedArgument _ => .invalidLiteral
  | unexpectedCharacter _ => .unexpectedCharacter
  | expectedKind _ _ | expectedExpression _ | literalWithoutValue => .unexpectedToken
  | memberNotFound _ _ => .memberNotFound
  | ambiguousMember _ _ => .ambiguousMember
  | badOperand _ _ | badOperands _ _ _ | badArgument _ _ _ | unexpectedResult => .typeMismatch
  | notASequence _ _ => .notASequence
  | noSuchInput _ _ _ => .iteratorDepth
  | unknownFunction _ _ => .unknownFunction
  | invalidPattern _ => .invalidPattern
  | queryNotBoolean _ | blockNotBoolean _ => .notBoolean

/-- The whole text of a cause. -/
def text : Cause → String
  | unterminatedString => "Unterminated string literal"
  | integerTooLarge digits => "Integer literal '" ++ excerpt digits ++ "' is out of range"
  | badTime fault => fault.message
  | unexpectedCharacter c => "Unexpected character '" ++ c.toString ++ "'"
  | expectedKind expected found =>
    "Expected " ++ expected.display ++ " but found " ++ found.describe
  | expectedExpression found => "Expected an expression but found " ++ found.describe
  | literalWithoutValue => "Literal without a value"
  | memberNotFound name owner => "Member '" ++ excerpt name ++ "' not found on " ++ owner
  | ambiguousMember name candidates =>
    "'" ++ excerpt name ++ "' is ambiguous: " ++ ", ".intercalate candidates
  | badOperand operator type => "Operator '" ++ operator ++ "' cannot be applied to " ++ type
  | badOperands operator left right =>
    "Operator '" ++ operator ++ "' cannot be applied to " ++ left ++ " and " ++ right
  | badArgument function expected found =>
    "Function '" ++ function ++ "' expects " ++ expected ++ " arguments, got " ++ found
  | unexpectedResult => "Unexpected function result"
  | notASequence quantifier type =>
    "'" ++ quantifier ++ "' requires a sequence, but the operand is " ++ type
  | noSuchInput lexeme levels depth =>
    "'" ++ lexeme ++ "' climbs " ++ toString levels ++
      " level(s) up, but the query is only nested to depth " ++ toString depth
  | unknownFunction name arity =>
    "Unknown function '" ++ excerpt name ++ "' taking " ++ toString arity ++ " argument(s)"
  | invalidPattern fault => "Invalid regular expression: " ++ fault.message
  | rejectedArgument fault => fault.message
  | queryNotBoolean type => "Query must evaluate to a boolean, got " ++ type
  | blockNotBoolean type => "Nested query must evaluate to a boolean, got " ++ type

/-- The message of a cause, cut where it is too long. -/
def message (cause : Cause) : String := cutTo messageWidth cause.text

end Cause

/-- The error of a query: the query, the bytes to blame from `start` up to `stop`, and the
cause. -/
structure CompileError where
  source : String
  start : Nat
  stop : Nat
  cause : Cause

namespace CompileError

/-- The characters of the last line of a text. -/
def lastLine (text : List Char) : List Char := (text.reverse.takeWhile (· ≠ '\n')).reverse

/-- The last characters of a text, with dots where it was cut. -/
def keepEnd (text : List Char) : List Char :=
  if contextWidth < text.length then
    "...".toList ++ text.drop (text.length - contextWidth)
  else text

/-- The first characters of a text, with dots where it was cut. -/
def keepStart (text : List Char) : List Char :=
  if contextWidth < text.length then text.take contextWidth ++ "...".toList else text

/-- The line on which a span starts, in three parts: before the span, inside it, after it. -/
def lineParts (source : List Char) (start stop : Nat) : List Char × List Char × List Char :=
  let (before, rest) := Text.splitAtByte start source
  let (inside, after) := Text.splitAtByte (stop - start) rest
  if '\n' ∈ inside then (lastLine before, inside.takeWhile (· ≠ '\n'), [])
  else (lastLine before, inside, after.takeWhile (· ≠ '\n'))

/-- The piece of the query around a span, and the marker for the line below it. -/
def surroundings (source : List Char) (start stop : Nat) : List Char × List Char :=
  let (before, inside, after) := lineParts source start stop
  let shown := keepEnd before
  let line :=
    if contextWidth < inside.length then shown ++ keepStart inside
    else shown ++ inside ++ keepStart after
  let carets := max 1 (min contextWidth inside.length)
  (line, List.replicate shown.length ' ' ++ List.replicate carets '^')

/-- The report of a message on the bytes of a query from `start` up to `stop`. -/
def reportOn (source : String) (start stop : Nat) (message : String) : String :=
  let (line, marker) :=
    if source.isEmpty then ("(empty input)".toList, [])
    else surroundings source.toList start stop
  "Query compilation failed, error at position " ++ toString start ++ ":\n  " ++ message ++
    "\n\nSurrounding text:\n  " ++ String.ofList line ++ "\n  " ++ String.ofList marker

/-- The report of an error. -/
def report (error : CompileError) : String :=
  reportOn error.source error.start error.stop error.cause.message

end CompileError

end RecordQuery
