import RecordQuery.Record.ValueType
import RecordQuery.Time.Reading

/-!
# Functions

The functions that queries can call.  All of them read a time from texts; they differ in
the number of texts and in the kind of time.  A function is found by its name, in capital
or small letters of ASCII, and by the number of its arguments.
-/

set_option autoImplicit false

namespace RecordQuery

/-- A function of the language. -/
inductive Function where
  /-- A point in time from a text. -/
  | dateTime
  /-- A point in time from a text and a format. -/
  | dateTimeByFormat
  /-- A span of time from a text. -/
  | timeSpan
deriving DecidableEq, Repr

namespace Function

variable {ρ : Type}

/-- The functions, in the order in which they are looked up. -/
def all : List Function := [dateTime, dateTimeByFormat, timeSpan]

/-- The name of a function. -/
def name : Function → String
  | dateTime | dateTimeByFormat => "DateTime"
  | timeSpan => "TimeSpan"

/-- The number of arguments of a function. -/
def arity : Function → Nat
  | dateTime | timeSpan => 1
  | dateTimeByFormat => 2

/-- The function with a name and a number of arguments. -/
def resolve? (name : String) (arity : Nat) : Option Function :=
  all.find? fun function =>
    function.arity = arity ∧
      function.name.toList.map Char.toLower = name.toList.map Char.toLower

/-- The type of every argument of a function. -/
def parameterType : Function → ValueType ρ
  | _ => .string

/-- The type of what a function gives. -/
def resultType : Function → ValueType ρ
  | dateTime | dateTimeByFormat => .dateTime
  | timeSpan => .timeSpan

/-- An argument as a text; what is missing or no text counts as the empty one. -/
def textAt (arguments : List (Value ρ)) (index : Nat) : String :=
  (arguments[index]?.bind Value.string?).getD ""

/-- Applies a function to its arguments. -/
def apply (function : Function) (arguments : List (Value ρ)) : Except ReadingFault (Value ρ) :=
  match function with
  | dateTime => .dateTime <$> DateTime.ofText (textAt arguments 0)
  | dateTimeByFormat =>
    .dateTime <$> DateTime.ofTextByFormat (textAt arguments 0) (textAt arguments 1)
  | timeSpan => .timeSpan <$> TimeSpan.ofText (textAt arguments 0)

end Function

end RecordQuery
