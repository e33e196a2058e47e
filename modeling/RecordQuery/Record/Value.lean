import RecordQuery.Time.DateTime

/-!
# Values

What a query computes with.  A value is null, or a boolean, a number, a text, a span or a
point of time, a record or a sequence of values.  Records belong to whoever asks the
query: `ρ` is their type, and only its equality is used here.  Integers have 64 bits and a
sign, floats are binary64.

Two equalities are told apart.  The one that queries ask for (`looseEq`) compares an
integer with a float by the float nearest to the integer; the strict one (`==`) never
holds between the two, except inside sequences, whose elements are compared loosely.
Null equals null and nothing else.
-/

set_option autoImplicit false

namespace RecordQuery

/-- A value over records of type `ρ`. -/
inductive Value (ρ : Type) where
  | null
  | boolean (value : Bool)
  | integer (value : Int64)
  | float (value : Float)
  | string (value : String)
  | timeSpan (value : TimeSpan)
  | dateTime (value : DateTime)
  | record (record : ρ)
  | sequence (items : List (Value ρ))
deriving Inhabited

namespace Value

variable {ρ : Type}

/-! ## Views of one value -/

/-- Null and nothing else. -/
def isNull : Value ρ → Bool
  | .null => true
  | _ => false

/-- True and nothing else: whatever is no boolean counts as false. -/
def isTrue : Value ρ → Bool
  | .boolean value => value
  | _ => false

/-- A number as a float; of an integer this is the float nearest to it. -/
def float? : Value ρ → Option Float
  | .integer value => some (Float.ofInt value.toInt)
  | .float value => some value
  | _ => none

/-- The text of a string. -/
def string? : Value ρ → Option String
  | .string value => some value
  | _ => none

/-- The number of elements of a sequence. -/
def length? : Value ρ → Option Nat
  | .sequence items => some items.length
  | _ => none

/-- The elements of a sequence; whatever is no sequence has none. -/
def items : Value ρ → List (Value ρ)
  | .sequence items => items
  | _ => []

/-! ## Equality -/

/-- Whether two values that may be numbers are numbers of the same size. -/
def sameSize (left right : Value ρ) : Bool :=
  match left.float?, right.float? with
  | some x, some y => x == y
  | _, _ => false

mutual

/-- The equality that queries ask for. -/
def looseEq [BEq ρ] : Value ρ → Value ρ → Bool
  | .null, .null => true
  | .boolean a, .boolean b => a == b
  | .integer a, .integer b => a == b
  | .string a, .string b => a == b
  | .timeSpan a, .timeSpan b => decide (a = b)
  | .dateTime a, .dateTime b => decide (a = b)
  | .record a, .record b => a == b
  | .sequence a, .sequence b => looseEqList a b
  | a, b => sameSize a b

/-- Loose equality of the elements of two sequences, one by one. -/
def looseEqList [BEq ρ] : List (Value ρ) → List (Value ρ) → Bool
  | [], [] => true
  | a :: left, b :: right => looseEq a b && looseEqList left right
  | _, _ => false

end

/-- Strict equality: an integer is no float. -/
instance [BEq ρ] : BEq (Value ρ) where
  beq
    | .integer _, .float _ => false
    | .float _, .integer _ => false
    | left, right => left.looseEq right

/-! ## Order -/

/-- The order of two floats; a float that is no number has no place in it. -/
def compareFloats (x y : Float) : Option Ordering :=
  if x < y then some .lt
  else if x == y then some .eq
  else if y < x then some .gt
  else none

/-- The order of two values: of two numbers, of two texts by their code points, of two
spans or of two points in time.  Other values are not ordered. -/
def compare? : Value ρ → Value ρ → Option Ordering
  | .integer a, .integer b => some (compare a b)
  | .string a, .string b => some (compare a b)
  | .timeSpan a, .timeSpan b => some (compare a b)
  | .dateTime a, .dateTime b => some (compare a b)
  | a, b =>
    match a.float?, b.float? with
    | some x, some y => compareFloats x y
    | _, _ => none

end Value

end RecordQuery
