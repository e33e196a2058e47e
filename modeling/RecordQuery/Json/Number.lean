import RecordQuery.Json.Basic
import RecordQuery.Text.Digits

/-!
# The numbers of JSON

The digits of a number are gathered into a significand of 64 bits for as long as it
can hold them; later digits before the point only raise the exponent, later ones after
the point are dropped.  A number with a fraction, with an exponent or with too many
digits is a float, made from the significand by one multiplication or division by a
power of ten.  That is not always the float nearest to the decimal, and it is the rule
here.  A number too large for a float is refused.
-/

set_option autoImplicit false

namespace RecordQuery.Json

open Text (digitsValue)

/-- Why a text is not a JSON document. -/
inductive Fault where
  | unexpectedEnd
  | unexpectedCharacter
  | numberOutOfRange
  | loneSurrogate
  | tooDeep
  | trailingCharacters
deriving DecidableEq, Repr

/-- The text of a fault. -/
def Fault.message : Fault → String
  | .unexpectedEnd => "the text ends too early"
  | .unexpectedCharacter => "a character does not fit"
  | .numberOutOfRange => "a number is out of range"
  | .loneSurrogate => "half of a surrogate pair stands alone"
  | .tooDeep => "arrays and objects are nested too deeply"
  | .trailingCharacters => "there is text after the document"

/-- The digits of a written number.  The sign is apart; `fraction` and `exponent` are
there when they are written. -/
structure NumberNotation where
  negative : Bool
  whole : List Char
  fraction : Option (List Char)
  exponent : Option (Bool × List Char)

/-- Adds digits to a significand while 64 bits hold it; the digits that are left. -/
def gather (significand : Nat) : List Char → Nat × List Char
  | [] => (significand, [])
  | digit :: digits =>
    let next := significand * 10 + (digit.toNat - '0'.toNat)
    if next ≤ 0xFFFFFFFFFFFFFFFF then gather next digits else (significand, digit :: digits)

/-- The powers of ten that are floats, rounded. -/
def powerOfTen (exponent : Nat) : Float := OfScientific.ofScientific 1 false exponent

/-- A significand times a power of ten.  A power below all floats is reached by dividing
by the greatest one as often as needed. -/
def scale (value : Float) (exponent : Int) : Except Fault Float :=
  if 0 ≤ exponent then
    if exponent ≤ 308 then
      let scaled := value * powerOfTen exponent.toNat
      if scaled.isInf then .error .numberOutOfRange else .ok scaled
    else if value == 0 then .ok value
    else .error .numberOutOfRange
  else if -308 ≤ exponent then .ok (value / powerOfTen (-exponent).toNat)
  else if value == 0 then .ok value
  else scale (value / powerOfTen 308) (exponent + 308)
termination_by (-exponent).toNat
decreasing_by omega

/-- The float that a number with a fraction, an exponent or too many digits stands for. -/
def NumberNotation.float (number : NumberNotation) : Except Fault Float := do
  let (whole, excess) := gather 0 number.whole
  let fraction := number.fraction.getD []
  let (significand, dropped) := gather whole fraction
  let shift : Int := excess.length - (fraction.length - dropped.length : Nat)
  let positive := fun (value : Float) => if number.negative then -value else value
  match number.exponent with
  | none => positive <$> scale (Float.ofNat significand) shift
  | some (isNegative, digits) =>
    let exponent := digitsValue digits
    if 0x80000000 ≤ exponent then
      if significand ≠ 0 ∧ ¬ isNegative then throw .numberOutOfRange else return positive 0
    else
      positive <$> scale (Float.ofNat significand)
        (if isNegative then shift - exponent else shift + exponent)

/-- The number that the digits write. -/
def NumberNotation.value (number : NumberNotation) : Except Fault Json :=
  let size := digitsValue number.whole
  match number.fraction, number.exponent with
  | none, none =>
    if number.negative then
      if size = 0 then .ok (.float (-0.0))
      else if size ≤ 0x8000000000000000 then .ok (.integer (-size))
      else .float <$> number.float
    else if size ≤ 0xFFFFFFFFFFFFFFFF then .ok (.integer size)
    else .float <$> number.float
  | _, _ => .float <$> number.float

end RecordQuery.Json
