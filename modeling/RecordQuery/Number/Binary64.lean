/-!
# Floating-point numbers as fractions

A finite float is a whole number times a power of two.  The remainder of a division
and the shortest decimal form of a float are computed exactly on that fraction.
-/

set_option autoImplicit false

namespace RecordQuery.Number

/-- A finite float as `mantissa * 2 ^ exponent` with a sign.  `boundary` holds where the
next float toward zero is only half as far away as the next one outward. -/
structure Binary64 where
  negative : Bool
  mantissa : Nat
  exponent : Int
  boundary : Bool

namespace Binary64

/-- The parts of a finite float, read off its bits. -/
def ofFloat (x : Float) : Binary64 :=
  let bits := x.toBits.toNat
  let fraction : Nat := bits % 0x10000000000000
  let exponent : Nat := bits / 0x10000000000000 % 0x800
  let negative := bits / 0x8000000000000000 == 1
  if exponent = 0 then ⟨negative, fraction, -1074, false⟩
  else
    ⟨negative, 0x10000000000000 + fraction, (exponent : Int) - 1075,
      fraction == 0 && exponent != 1⟩

end Binary64

/-- The remainder of a division of floats that is rounded toward zero, with the sign of
the dividend.  It is exact; there is none where the divisor is zero or the dividend is
infinite. -/
def remainder (x y : Float) : Float :=
  if x.isNaN || y.isNaN || x.isInf || y == 0 then 0.0 / 0.0
  else if y.isInf || x == 0 then x
  else
    let dividend := Binary64.ofFloat x
    let divisor := Binary64.ofFloat y
    let exponent := min dividend.exponent divisor.exponent
    let size :=
      (dividend.mantissa * Nat.pow 2 (dividend.exponent - exponent).toNat) %
        (divisor.mantissa * Nat.pow 2 (divisor.exponent - exponent).toNat)
    let result := (Float.ofNat size).scaleB exponent
    if dividend.negative then -result else result

end RecordQuery.Number
