/-!
# JSON documents

The members of an object are kept in the order of their keys, by code points, and
each key occurs once.  A number that is written without a fraction or an exponent and
fits into 64 bits, with or without a sign, is an integer; every other number is a
float.
-/

set_option autoImplicit false

namespace RecordQuery

/-- A JSON document. -/
inductive Json where
  | null
  | bool (value : Bool)
  | integer (value : Int)
  | float (value : Float)
  | string (value : String)
  | array (items : List Json)
  | object (members : List (String × Json))
deriving BEq, Inhabited

namespace Json

/-- Stores a member under its key, in the place of an earlier one with that key. -/
def insert (key : String) (value : Json) : List (String × Json) → List (String × Json)
  | [] => [(key, value)]
  | (other, held) :: members =>
    if key = other then (key, value) :: members
    else if key < other then (key, value) :: (other, held) :: members
    else (other, held) :: insert key value members

/-- The object with the given members; of equal keys the last counts. -/
def ofMembers (members : List (String × Json)) : Json :=
  .object (members.foldl (fun sorted member => insert member.1 member.2 sorted) [])

/-- The member of an object with a key. -/
def get? (key : String) : Json → Option Json
  | .object members => (members.find? (·.1 = key)).map (·.2)
  | _ => none

/-- The keys of an object, in order. -/
def keys : Json → List String
  | .object members => members.map (·.1)
  | _ => []

/-- The items of an array. -/
def items? : Json → Option (List Json)
  | .array items => some items
  | _ => none

/-- The text of a string. -/
def string? : Json → Option String
  | .string text => some text
  | _ => none

/-- A number, integer or float. -/
def isNumber : Json → Bool
  | .integer _ | .float _ => true
  | _ => false

/-- Nothing at all. -/
def isNull : Json → Bool
  | .null => true
  | _ => false

/-- The integer as a signed number of 64 bits, where it is one. -/
def int64? : Json → Option Int64
  | .integer value =>
    if -0x8000000000000000 ≤ value ∧ value ≤ 0x7FFFFFFFFFFFFFFF then some (Int64.ofInt value)
    else none
  | _ => none

/-- A number as a float. -/
def float? : Json → Option Float
  | .integer value => some (Float.ofInt value)
  | .float value => some value
  | _ => none

end Json

end RecordQuery
