import RecordQuery.Record.Value

/-!
# Types of values

Every expression and every member of a record has a type that is known before anything is
read.  A record type has a name and lists its members; each member comes with the function
that reads it from a record.  Two record types are taken for the same when they have the
same name.
-/

set_option autoImplicit false

namespace RecordQuery

/-- A member of a record type, with the types of members left open. -/
structure Field (ρ τ : Type) where
  name : String
  type : τ
  read : ρ → Value ρ

/-- The type of a value over records of type `ρ`. -/
inductive ValueType (ρ : Type) where
  | boolean
  | integer
  | float
  | string
  | timeSpan
  | dateTime
  | record (name : String) (members : List (Field ρ (ValueType ρ)))
  | sequence (element : ValueType ρ)
deriving Inhabited

/-- A member of a record type. -/
abbrev Member (ρ : Type) := Field ρ (ValueType ρ)

/-- Reads a member from a value; whatever is no record has only null members. -/
def Field.readFrom {ρ τ : Type} (member : Field ρ τ) : Value ρ → Value ρ
  | .record record => member.read record
  | _ => .null

namespace ValueType

variable {ρ : Type}

/-- Integers and floats. -/
def isNumeric : ValueType ρ → Bool
  | .integer | .float => true
  | _ => false

/-- The booleans. -/
def isBoolean : ValueType ρ → Bool
  | .boolean => true
  | _ => false

/-- The texts. -/
def isString : ValueType ρ → Bool
  | .string => true
  | _ => false

/-- The members of a record type; other types have none. -/
def members : ValueType ρ → List (Member ρ)
  | .record _ members => members
  | _ => []

/-- The type of the elements of a sequence. -/
def element? : ValueType ρ → Option (ValueType ρ)
  | .sequence element => some element
  | _ => none

/-- The same type; of two record types only the names are compared. -/
def same : ValueType ρ → ValueType ρ → Bool
  | .boolean, .boolean => true
  | .integer, .integer => true
  | .float, .float => true
  | .string, .string => true
  | .timeSpan, .timeSpan => true
  | .dateTime, .dateTime => true
  | .record left _, .record right _ => left == right
  | .sequence left, .sequence right => same left right
  | _, _ => false

/-- The name of a type in messages. -/
def display : ValueType ρ → String
  | .boolean => "boolean"
  | .integer => "integer"
  | .float => "float"
  | .string => "string"
  | .timeSpan => "time span"
  | .dateTime => "date time"
  | .record name _ => name
  | .sequence element => "sequence of " ++ element.display

end ValueType

end RecordQuery
