import RecordQuery.Query.Operator
import RecordQuery.Record.ValueType

/-!
# Tokens

A query is cut into tokens: words, literals, runs of `$`, marks, and the end.  A literal
token carries the value that it writes, and every token knows the byte at which it starts.
-/

set_option autoImplicit false

namespace RecordQuery

/-- A value that is written in a query. -/
inductive Literal where
  | string (value : String)
  | integer (value : Int32)
  | float (value : Float)
  | boolean (value : Bool)
  | timeSpan (value : TimeSpan)
  | dateTime (value : DateTime)

namespace Literal

variable {ρ : Type}

/-- The type of a literal. -/
def type : Literal → ValueType ρ
  | .string _ => .string
  | .integer _ => .integer
  | .float _ => .float
  | .boolean _ => .boolean
  | .timeSpan _ => .timeSpan
  | .dateTime _ => .dateTime

/-- The value of a literal. -/
def toValue : Literal → Value ρ
  | .string value => .string value
  | .integer value => .integer value.toInt64
  | .float value => .float value
  | .boolean value => .boolean value
  | .timeSpan value => .timeSpan value
  | .dateTime value => .dateTime value

end Literal

/-- What is asked about the elements of a sequence: whether one fits, whether all do, or
how many do. -/
inductive Quantifier where
  | any
  | all
  | count
deriving DecidableEq, Repr

namespace Quantifier

/-- The word for a quantifier. -/
def word : Quantifier → String
  | any => "any"
  | all => "all"
  | count => "count"

/-- The quantifier that a word stands for, in capital or small letters of ASCII. -/
def ofWord? (text : String) : Option Quantifier :=
  [any, all, count].find? fun quantifier =>
    text.toList.map Char.toLower = quantifier.word.toList

end Quantifier

/-- The kind of a token. -/
inductive TokenKind where
  | identifier
  /-- The moment at which the query is compiled, `@now`. -/
  | now
  /-- A run of `$`, which asks for the input as many levels up as it is longer than one. -/
  | input
  | quantifier
  | literal
  | mark (mark : Mark)
  | endOfInput
deriving DecidableEq, Repr

/-- The name of a kind in messages. -/
def TokenKind.display : TokenKind → String
  | .identifier => "identifier"
  | .now => "'@now'"
  | .input => "iterator variable"
  | .quantifier => "nested query operator"
  | .literal => "literal"
  | .mark fixed => "'" ++ fixed.text ++ "'"
  | .endOfInput => "end of input"

/-- A token and the byte at which it starts. -/
structure Token where
  start : Nat
  kind : TokenKind
  lexeme : String
  literal? : Option Literal

/-- The byte after the last one of a token. -/
def Token.stop (token : Token) : Nat := token.start + token.lexeme.utf8ByteSize

end RecordQuery
