/-!
# Operators

The marks of the language, the operators that some of them stand for, and how tightly each
binary operator binds.  From the loosest to the tightest: `||`, `&&`, `|`, `^`, `&`, the
equalities and pattern operators, the order relations, the shifts, sum and difference,
product and quotient.  Operators that bind alike group to the left.
-/

set_option autoImplicit false

namespace RecordQuery

/-! ## Marks -/

/-- A token with a fixed spelling. -/
inductive Mark where
  | or
  | and
  | equal
  | notEqual
  | like
  | notLike
  | matchesRegex
  | doesNotMatchRegex
  | lessEqual
  | greaterEqual
  | shiftLeft
  | shiftRight
  | bitOr
  | bitXor
  | bitAnd
  | less
  | greater
  | plus
  | minus
  | times
  | divide
  | modulo
  | not
  | bitNot
  | parenthesisOpen
  | parenthesisClose
  | blockOpen
  | blockClose
  | comma
  | dot
deriving DecidableEq, Repr

namespace Mark

/-- The spelling of a mark. -/
def text : Mark → String
  | or => "||"
  | and => "&&"
  | equal => "=="
  | notEqual => "!="
  | like => "=?"
  | notLike => "!?"
  | matchesRegex => "=~"
  | doesNotMatchRegex => "!~"
  | lessEqual => "<="
  | greaterEqual => ">="
  | shiftLeft => "<<"
  | shiftRight => ">>"
  | bitOr => "|"
  | bitXor => "^"
  | bitAnd => "&"
  | less => "<"
  | greater => ">"
  | plus => "+"
  | minus => "-"
  | times => "*"
  | divide => "/"
  | modulo => "%"
  | not => "!"
  | bitNot => "~"
  | parenthesisOpen => "("
  | parenthesisClose => ")"
  | blockOpen => "\x7b"
  | blockClose => "\x7d"
  | comma => ","
  | dot => "."

/-- All marks, those of two characters first, so that the first one that fits a text is the
longest one that does. -/
def all : List Mark := [
  or, and, equal, notEqual, like, notLike, matchesRegex, doesNotMatchRegex, lessEqual,
  greaterEqual, shiftLeft, shiftRight, bitOr, bitXor, bitAnd, less, greater, plus, minus, times,
  divide, modulo, not, bitNot, parenthesisOpen, parenthesisClose, blockOpen, blockClose, comma,
  dot]

/-- The longest mark at the front of a text. -/
def read? (text : List Char) : Option Mark :=
  all.find? fun mark => mark.text.toList.isPrefixOf text

end Mark

/-! ## Operators -/

/-- A binary operator that computes with values. -/
inductive BinaryOp where
  | or
  | and
  | bitOr
  | bitXor
  | bitAnd
  | equal
  | notEqual
  | less
  | lessEqual
  | greater
  | greaterEqual
  | shiftLeft
  | shiftRight
  | add
  | subtract
  | multiply
  | divide
  | modulo
deriving DecidableEq, Repr

/-- A binary operator that compares a text with a pattern: with wildcards, or a regular
expression that has to match somewhere. -/
inductive PatternOp where
  | like
  | notLike
  | matchesRegex
  | doesNotMatchRegex
deriving DecidableEq, Repr

/-- What a mark between two operands stands for. -/
inductive Operator where
  | value (op : BinaryOp)
  | pattern (op : PatternOp)
deriving DecidableEq, Repr

/-- An operator with one operand. -/
inductive UnaryOp where
  | negate
  | not
  | bitNot
deriving DecidableEq, Repr

/-- A binary operator in the table. -/
structure BinaryEntry where
  mark : Mark
  precedence : Int
  operator : Operator
deriving DecidableEq, Repr

/-- The binary operators. -/
def BinaryEntry.table : List BinaryEntry := [
  ⟨.or, 0, .value .or⟩,
  ⟨.and, 10, .value .and⟩,
  ⟨.equal, 60, .value .equal⟩,
  ⟨.notEqual, 60, .value .notEqual⟩,
  ⟨.like, 60, .pattern .like⟩,
  ⟨.notLike, 60, .pattern .notLike⟩,
  ⟨.matchesRegex, 60, .pattern .matchesRegex⟩,
  ⟨.doesNotMatchRegex, 60, .pattern .doesNotMatchRegex⟩,
  ⟨.lessEqual, 70, .value .lessEqual⟩,
  ⟨.greaterEqual, 70, .value .greaterEqual⟩,
  ⟨.shiftLeft, 80, .value .shiftLeft⟩,
  ⟨.shiftRight, 80, .value .shiftRight⟩,
  ⟨.bitOr, 20, .value .bitOr⟩,
  ⟨.bitXor, 30, .value .bitXor⟩,
  ⟨.bitAnd, 40, .value .bitAnd⟩,
  ⟨.less, 70, .value .less⟩,
  ⟨.greater, 70, .value .greater⟩,
  ⟨.plus, 90, .value .add⟩,
  ⟨.minus, 90, .value .subtract⟩,
  ⟨.times, 100, .value .multiply⟩,
  ⟨.divide, 100, .value .divide⟩,
  ⟨.modulo, 100, .value .modulo⟩]

/-- A unary operator in the table. -/
structure UnaryEntry where
  mark : Mark
  op : UnaryOp
deriving DecidableEq, Repr

/-- The unary operators. -/
def UnaryEntry.table : List UnaryEntry := [
  ⟨.minus, .negate⟩,
  ⟨.not, .not⟩,
  ⟨.bitNot, .bitNot⟩]

/-- The binary operator that a mark stands for. -/
def Mark.binary? (mark : Mark) : Option BinaryEntry :=
  BinaryEntry.table.find? (·.mark = mark)

/-- The unary operator that a mark stands for. -/
def Mark.unary? (mark : Mark) : Option UnaryOp :=
  (UnaryEntry.table.find? (·.mark = mark)).map (·.op)

/-- The floor below the precedence of every binary operator. -/
def lowestPrecedence : Int := -0x80000000

namespace BinaryOp

/-- The spelling of an operator. -/
def symbol : BinaryOp → String
  | or => Mark.or.text
  | and => Mark.and.text
  | bitOr => Mark.bitOr.text
  | bitXor => Mark.bitXor.text
  | bitAnd => Mark.bitAnd.text
  | equal => Mark.equal.text
  | notEqual => Mark.notEqual.text
  | less => Mark.less.text
  | lessEqual => Mark.lessEqual.text
  | greater => Mark.greater.text
  | greaterEqual => Mark.greaterEqual.text
  | shiftLeft => Mark.shiftLeft.text
  | shiftRight => Mark.shiftRight.text
  | add => Mark.plus.text
  | subtract => Mark.minus.text
  | multiply => Mark.times.text
  | divide => Mark.divide.text
  | modulo => Mark.modulo.text

end BinaryOp

namespace PatternOp

/-- The name of the test that an operator stands for. -/
def name : PatternOp → String
  | like => "Like"
  | notLike => "NotLike"
  | matchesRegex => "MatchesRegex"
  | doesNotMatchRegex => "DoesNotMatchRegex"

/-- The pattern is a regular expression. -/
def isRegex : PatternOp → Bool
  | like | notLike => false
  | matchesRegex | doesNotMatchRegex => true

/-- The operator holds where the pattern does not fit. -/
def isNegated : PatternOp → Bool
  | like | matchesRegex => false
  | notLike | doesNotMatchRegex => true

end PatternOp

end RecordQuery
