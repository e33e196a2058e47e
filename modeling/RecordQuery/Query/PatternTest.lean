import RecordQuery.Query.Operator
import RecordQuery.Regex.Reader
import RecordQuery.Text.Glob

/-!
# Comparing texts with patterns

The tests behind the pattern operators.  A text that is missing counts as the empty text,
and so does a pattern.  A regular expression that is invalid matches nothing, so that its
negation holds of every text.
-/

set_option autoImplicit false

namespace RecordQuery

namespace PatternTest

/-- The pattern with wildcards takes the text. -/
def like (text pattern : Option String) : Bool :=
  Glob.accepts (pattern.getD "").toList (text.getD "").toList

/-- The regular expression matches somewhere in the text. -/
def matchesRegex (text pattern : Option String) : Bool :=
  match Regex.Pattern.ofChars (pattern.getD "").toList with
  | .ok regex => regex.isMatch (text.getD "").toList
  | .error _ => false

end PatternTest

namespace PatternOp

/-- The answer of an operator whose pattern fits the text or does not. -/
def answer (op : PatternOp) (fits : Bool) : Bool := op.isNegated != fits

/-- Compares a text with a written pattern. -/
def apply (op : PatternOp) (text pattern : Option String) : Bool :=
  op.answer <|
    if op.isRegex then PatternTest.matchesRegex text pattern else PatternTest.like text pattern

/-- Compares a text with a regular expression that was read before. -/
def applyRegex (op : PatternOp) (text : Option String) (regex : Regex.Pattern) : Bool :=
  op.answer (regex.isMatch (text.getD "").toList)

end PatternOp

end RecordQuery
