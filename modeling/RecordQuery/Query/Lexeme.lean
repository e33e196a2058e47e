import RecordQuery.Query.Error
import RecordQuery.Text.Alphabetic

/-!
# What a text begins with

The longest token at the front of a text, without regard to where the text stands.  Words
begin with a letter, `_` or `@` and go on with letters, digits and `_`.  Digits are tried as a
span of time first, then as a point in time, then as a number; when they have the shape of
a time but not its value, that is an error and not a number.  Texts run from quote to
quote, with no escapes.
-/

set_option autoImplicit false

namespace RecordQuery

open Text (digitRun digitsValue markedDigits)

/-- A token without its place.  Only the characters after the first are counted: no token
is empty but the one at the end. -/
structure Lexeme where
  kind : TokenKind
  more : Nat
  literal? : Option Literal

/-- Why no token begins a text: the cause, how many characters are to blame, and how many
are passed over all the same. -/
structure LexemeFault where
  cause : Cause
  extent : Nat
  passed : Nat

namespace Lexeme

/-- A literal written in so many characters. -/
def ofLiteral (length : Nat) (literal : Literal) : Lexeme := ⟨.literal, length - 1, some literal⟩

/-- A token with one more character than `more` that carries no value. -/
def plain (kind : TokenKind) (more : Nat) : Lexeme := ⟨kind, more, none⟩

/-! ## Words -/

/-- A character at the start of a word. -/
def startsWord (c : Char) : Bool := Text.isAlphabetic c || c == '_' || c == '@'

/-- A character inside a word. -/
def continuesWord (c : Char) : Bool := Text.isAlphanumeric c || c == '_'

/-- The words that ask a question. -/
def questionWords : List String := ["any", "all", "count"]

/-- A word asks a question, in capital or small letters of ASCII. -/
def asksQuestion (word : String) : Bool :=
  questionWords.any fun keyword => word.toList.map Char.toLower = keyword.toList

/-- What a word is. -/
def ofWord (word : String) : Lexeme :=
  let length := word.toList.length
  if word = "true" then ofLiteral length (.boolean true)
  else if word = "false" then ofLiteral length (.boolean false)
  else if word.toList.map Char.toLower = "@now".toList then plain .now (length - 1)
  else if asksQuestion word then plain .quantifier (length - 1)
  else plain .identifier (length - 1)

/-! ## Literals -/

/-- A text in quotes, read from after the first quote. -/
def readString (text : List Char) : Except LexemeFault Lexeme :=
  let content := text.takeWhile (· ≠ '"')
  if content.length < text.length then
    .ok (ofLiteral (content.length + 2) (.string (String.ofList content)))
  else .error ⟨.unterminatedString, text.length + 1, text.length + 1⟩

/-- The float with the given digits before and after the point. -/
def ofDecimal (whole fraction : List Char) : Lexeme :=
  ofLiteral (whole.length + 1 + fraction.length)
    (.float (Float.ofScientific (digitsValue (whole ++ fraction)) true fraction.length))

/-- A number that writes neither a span nor a point in time. -/
def readPlainNumber (text : List Char) : Except LexemeFault Lexeme :=
  let (digits, rest) := digitRun text
  let (fraction, _) := markedDigits '.' rest
  if fraction ≠ [] then .ok (ofDecimal digits fraction)
  else if digitsValue digits ≤ 0x7FFFFFFF then
    .ok (ofLiteral digits.length (.integer (Int32.ofNat (digitsValue digits))))
  else
    .error ⟨.integerTooLarge (String.ofList digits), digits.length, digits.length⟩

/-- A literal of so many characters with a time that may be wrong; the digits at the front
of the text are to blame for that. -/
def ofTime {τ : Type} (text : List Char) (length : Nat) (literal : τ → Literal)
    (value : Except NotationFault τ) : Except LexemeFault Lexeme :=
  match value with
  | .ok value => .ok (ofLiteral length (literal value))
  | .error fault => .error ⟨.badTime fault, (digitRun text).1.length, 0⟩

/-- A literal that begins with a digit. -/
def readNumber (text : List Char) : Except LexemeFault Lexeme :=
  match SpanNotation.read? true text with
  | some (span, _) => ofTime text span.chars.length .timeSpan span.value
  | none =>
    match PointNotation.read? text with
    | some (point, _) => ofTime text point.chars.length .dateTime point.value
    | none => readPlainNumber text

/-! ## All tokens -/

/-- The token that a text with first character `c` begins with. -/
def read (c : Char) (text : List Char) : Except LexemeFault Lexeme :=
  if startsWord c then .ok (ofWord (String.ofList (c :: text.takeWhile continuesWord)))
  else if c = '$' then .ok (plain .input (text.takeWhile (· = '$')).length)
  else if c.isDigit then readNumber (c :: text)
  else if c = '.' ∧ (digitRun text).1 ≠ [] then .ok (ofDecimal [] (digitRun text).1)
  else if c = '"' then readString text
  else
    match Mark.read? (c :: text) with
    | some mark => .ok (plain (.mark mark) (mark.text.toList.length - 1))
    | none => .error ⟨.unexpectedCharacter c, 1, 0⟩

end Lexeme

end RecordQuery
