import RecordQuery.Number.Binary64

/-!
# The shortest decimal that reads back

Every finite positive float is the only float near a whole range of real numbers: those
that round to it, the two ends among them exactly when its mantissa is even.  Its
shortest form is a decimal of the fewest digits in that range, and of those the one
nearest to the float.  It is found by trying one digit, two digits and so on: if any
decimal of so many digits lies in the range, one of the two neighbours of the float
among such decimals does.  A neighbour may round up to the next power of ten, whose
zeros are then dropped.
-/

set_option autoImplicit false

namespace RecordQuery.Number

/-- A decimal `digits * 10 ^ exponent`. -/
structure Decimal where
  digits : Nat
  exponent : Int
deriving DecidableEq, Repr

/-- The same decimal without zeros at its end; `places` bounds their number. -/
def Decimal.trimmed (decimal : Decimal) : (places : Nat) → Decimal
  | 0 => decimal
  | places + 1 =>
    if decimal.digits % 10 = 0 then
      Decimal.trimmed ⟨decimal.digits / 10, decimal.exponent + 1⟩ places
    else decimal

/-- The digits of a number in base ten. -/
def decimalDigits (n : Nat) : List Char := Nat.toDigits 10 n

namespace Shortest

/-- A fraction `numerator / denominator`, with the two ends of the range that rounds to
it as numerators over the same denominator. -/
structure Interval where
  numerator : Nat
  denominator : Nat
  low : Nat
  high : Nat
  closed : Bool

/-- The range of the real numbers that round to a positive float. -/
def Interval.ofBinary64 (x : Binary64) : Interval :=
  let scale := 4 * Nat.pow 2 x.exponent.toNat
  { numerator := x.mantissa * scale
    denominator := 4 * Nat.pow 2 (-x.exponent).toNat
    low := x.mantissa * scale - (if x.boundary then scale / 4 else scale / 2)
    high := x.mantissa * scale + scale / 2
    closed := x.mantissa % 2 == 0 }

/-- The decimal lies in the range. -/
def Interval.holds (range : Interval) (decimal : Decimal) : Bool :=
  let value := decimal.digits * Nat.pow 10 decimal.exponent.toNat * range.denominator
  let unit := Nat.pow 10 (-decimal.exponent).toNat
  if range.closed then range.low * unit ≤ value && value ≤ range.high * unit
  else range.low * unit < value && value < range.high * unit

/-- The power of ten of the first digit of the float. -/
def Interval.leading (range : Interval) : Int :=
  if range.denominator ≤ range.numerator then
    (decimalDigits (range.numerator / range.denominator)).length - 1
  else
    let inverse := range.denominator / range.numerator
    let length := (decimalDigits inverse).length
    if range.denominator = range.numerator * Nat.pow 10 (length - 1) then 1 - (length : Int)
    else -(length : Int)

/-- The neighbours of the float among the decimals with this exponent that lie in the
range, the nearer one first. -/
def Interval.neighbours (range : Interval) (exponent : Int) : List Decimal :=
  let numerator := range.numerator * Nat.pow 10 (-exponent).toNat
  let denominator := range.denominator * Nat.pow 10 exponent.toNat
  let below := numerator / denominator
  let rest := numerator % denominator
  let candidates :=
    if 2 * rest < denominator ∨ (2 * rest = denominator ∧ below % 2 = 0) then [below, below + 1]
    else [below + 1, below]
  (candidates.map fun digits => ⟨digits, exponent⟩).filter range.holds

/-- The nearest decimal of the fewest digits, trying exponents downward. -/
def Interval.search (range : Interval) : Nat → Int → Decimal
  | 0, exponent => ⟨range.numerator / range.denominator, exponent⟩
  | tries + 1, exponent =>
    match range.neighbours exponent with
    | decimal :: _ => decimal
    | [] => range.search tries (exponent - 1)

end Shortest

/-- The shortest decimal that reads back as a positive finite float. -/
def shortest (x : Binary64) : Decimal :=
  let range := Shortest.Interval.ofBinary64 x
  (range.search 17 range.leading).trimmed 17

end RecordQuery.Number
