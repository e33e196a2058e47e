/-!
# Digits

The digits of ASCII at the front of a text, and the numbers that digits write.
-/

set_option autoImplicit false

namespace RecordQuery.Text

/-- The digits at the front of a text, and the rest. -/
def digitRun (text : List Char) : List Char × List Char :=
  (text.takeWhile Char.isDigit, text.dropWhile Char.isDigit)

/-- The number that digits write. -/
def digitsValue (digits : List Char) : Nat :=
  digits.foldl (fun value digit => value * 10 + (digit.toNat - '0'.toNat)) 0

/-- A mark followed by at least one digit: the digits, and the rest after them.  Where
there is no such thing, no digits and the text as it is. -/
def markedDigits (mark : Char) (text : List Char) : List Char × List Char :=
  match text with
  | [] => ([], [])
  | c :: rest =>
    if c = mark ∧ (digitRun rest).1 ≠ [] then digitRun rest else ([], text)

/-- The value of a hexadecimal digit. -/
def hexDigit? (c : Char) : Option Nat :=
  if c.isDigit then some (c.toNat - '0'.toNat)
  else if 'a' ≤ c ∧ c ≤ 'f' then some (c.toNat + 10 - 'a'.toNat)
  else if 'A' ≤ c ∧ c ≤ 'F' then some (c.toNat + 10 - 'A'.toNat)
  else none

end RecordQuery.Text
