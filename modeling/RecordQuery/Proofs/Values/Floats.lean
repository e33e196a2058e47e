import Mathlib
import RecordQuery.Record.Value

/-!
# The order of floats

Floats are ordered in part.  One that is no number has no place in the order, and of any two others
one is less or they are equal, where the two zeros are equal too.

`Value.compareFloats` asks three questions, whether the first float is less, equal or greater.  They
are answered by one comparison of signs, exponents and mantissas (`compareFloats_eq`), so it is
enough to know what happens to that when its sides are swapped, and when it has no answer.

An integer that is taken as a float is a number: rounding never leaves the numbers, and neither does
packing what was rounded into 64 bits.
-/

set_option autoImplicit false

namespace RecordQuery.Number

open Float.Model (UnpackedFloat Format)
open Float.Model.UnpackedFloat (packComponents)

/-! ## Comparing -/

theorem compare_swap (a b : UnpackedFloat) : b.compare a = (a.compare b).map Ordering.swap := by
  cases a with
  | notANumber => cases b with
    | finite s => cases s <;> rfl
    | infinity s => cases s <;> rfl
    | _ => rfl
  | infinity s => cases s <;> cases b with
    | finite t => cases t <;> rfl
    | infinity t => cases t <;> rfl
    | _ => rfl
  | zero s => cases b with
    | finite t => cases t <;> rfl
    | infinity t => cases t <;> rfl
    | _ => rfl
  | finite s m e positive => cases b with
    | finite t =>
        cases s <;> cases t <;>
          simp [UnpackedFloat.compare, Ordering.swap_then, ← Std.OrientedOrd.eq_swap]
    | infinity t => cases s <;> cases t <;> rfl
    | _ => cases s <;> rfl

/-- Whatever is a number can be compared with a number. -/
theorem compare_eq_none_iff {a b : UnpackedFloat} :
    a.compare b = none ↔ a.isNaN = true ∨ b.isNaN = true := by
  cases a with
  | notANumber => simp [UnpackedFloat.compare, UnpackedFloat.isNaN]
  | infinity s => cases s <;> cases b with
    | infinity t => cases t <;> simp [UnpackedFloat.compare, UnpackedFloat.isNaN]
    | _ => simp [UnpackedFloat.compare, UnpackedFloat.isNaN]
  | zero s => cases b with
    | infinity t => cases t <;> simp [UnpackedFloat.compare, UnpackedFloat.isNaN]
    | finite t => cases t <;> simp [UnpackedFloat.compare, UnpackedFloat.isNaN]
    | _ => simp [UnpackedFloat.compare, UnpackedFloat.isNaN]
  | finite s => cases s <;> cases b with
    | infinity t => cases t <;> simp [UnpackedFloat.compare, UnpackedFloat.isNaN]
    | finite t => cases t <;> simp [UnpackedFloat.compare, UnpackedFloat.isNaN]
    | _ => simp [UnpackedFloat.compare, UnpackedFloat.isNaN]

theorem lt_iff_compare {x y : Float} :
    x < y ↔ x.toModel.unpack.compare y.toModel.unpack = some .lt := by
  change Float.lt x y = true ↔ _
  simp [Float.lt, LT.lt, Float.Model.lt, UnpackedFloat.lt]

theorem beq_iff_compare {x y : Float} :
    (x == y) = true ↔ x.toModel.unpack.compare y.toModel.unpack = some .eq := by
  change (x.toModel.unpack.compare y.toModel.unpack == some .eq) = true ↔ _
  rw [beq_iff_eq]

/-- The three questions have the answer of one comparison. -/
theorem compareFloats_eq (x y : Float) :
    Value.compareFloats x y = x.toModel.unpack.compare y.toModel.unpack := by
  have greater : y < x ↔ x.toModel.unpack.compare y.toModel.unpack = some .gt := by
    rw [lt_iff_compare, compare_swap]
    rcases x.toModel.unpack.compare y.toModel.unpack with _ | _ | _ | _ <;> decide
  rw [Value.compareFloats]
  simp only [lt_iff_compare (x := x), beq_iff_compare, greater]
  rcases x.toModel.unpack.compare y.toModel.unpack with _ | _ | _ | _ <;> rfl

theorem compareFloats_swap (x y : Float) :
    Value.compareFloats y x = (Value.compareFloats x y).map Ordering.swap := by
  rw [compareFloats_eq, compareFloats_eq, compare_swap]

theorem compareFloats_eq_eq_iff {x y : Float} :
    Value.compareFloats x y = some .eq ↔ (x == y) = true := by
  rw [compareFloats_eq, beq_iff_compare]

theorem compareFloats_eq_none_iff {x y : Float} :
    Value.compareFloats x y = none ↔ x.isNaN = true ∨ y.isNaN = true := by
  rw [compareFloats_eq]
  exact compare_eq_none_iff

/-! ## Integers as floats -/

/-- Bits are no number only if their exponent is all ones and their mantissa is not zero. -/
theorem isNaN_unpack_packComponents {s : UnpackedFloat.Sign}
    {exponent : BitVec Format.binary64.exponentBits}
    {mantissa : BitVec Format.binary64.mantissaBitsWithoutImplicit}
    (number : exponent = -1#_ → mantissa = 0#_) :
    (UnpackedFloat.unpack .binary64 (packComponents .binary64 s exponent mantissa)).isNaN =
      false := by
  unfold UnpackedFloat.unpack
  simp only [UnpackedFloat.unpackExponent_packComponents,
    UnpackedFloat.unpackMantissa_packComponents]
  split
  · next ones =>
    rw [if_pos (number ones)]
    rfl
  · split
    · split <;> rfl
    · rfl

theorem isNaN_pack (f : UnpackedFloat) : (Float.Model.pack f).isNaN = f.isNaN := by
  change (UnpackedFloat.unpack .binary64 (UnpackedFloat.pack .binary64 f)).isNaN = f.isNaN
  cases f with
  | notANumber => rw [UnpackedFloat.pack, UnpackedFloat.unpack_packedNaN]
  | infinity => exact isNaN_unpack_packComponents fun _ => rfl
  | zero => exact isNaN_unpack_packComponents nofun
  | finite =>
      unfold UnpackedFloat.pack
      simp only
      split
      · exact isNaN_unpack_packComponents fun _ => rfl
      · next small =>
        split
        -- The exponent is less than all ones, or the number was packed as an infinity.
        · refine isNaN_unpack_packComponents fun ones => ?_
          have exponent := congrArg BitVec.toNat ones
          simp only [Format.binary64, BitVec.toNat_ofNat] at exponent small
          simp at exponent small
          omega
        · exact isNaN_unpack_packComponents nofun

theorem isNaN_roundWithAccuracy (format : Format) (s : UnpackedFloat.Sign) (m : Nat) (e : Int)
    (accuracy : UnpackedFloat.Accuracy) :
    (UnpackedFloat.roundWithAccuracy format s m e accuracy).isNaN = false := by
  unfold UnpackedFloat.roundWithAccuracy
  simp only
  split <;> rfl

theorem isNaN_mul_finite {format : Format} {a : UnpackedFloat} (number : a.isNaN = false)
    (s : UnpackedFloat.Sign) (m : Nat) (e : Int) (positive : 0 < m) :
    (UnpackedFloat.mul format a (.finite s m e positive)).isNaN = false := by
  cases a with
  | notANumber => cases number
  | infinity | zero => rfl
  | finite => exact isNaN_roundWithAccuracy _ _ _ _ _

theorem isNaN_ofInt (n : Int) : (UnpackedFloat.ofInt .binary64 n).isNaN = false := by
  unfold UnpackedFloat.ofInt UnpackedFloat.normalize
  split
  · exact isNaN_roundWithAccuracy _ _ _ _ _
  · rfl
  · exact isNaN_roundWithAccuracy _ _ _ _ _

theorem isNaN_ofScientific (n : Nat) :
    (UnpackedFloat.ofScientific .binary64 n 0).isNaN = false := by
  unfold UnpackedFloat.ofScientific
  split
  · rfl
  split
  · rfl
  split
  · rfl
  split
  · exact isNaN_mul_finite rfl _ _ _ _
  · next negative => exact absurd (Int.le_refl 0) negative

theorem isNaN_neg (f : UnpackedFloat) : f.neg.isNaN = f.isNaN := by cases f <;> rfl

theorem unpack_one : Float.exactlyRepresentablePowersOfTen[0].toModel.unpack =
    .finite .positive (2 ^ 52) (-52) (by decide) := rfl

/-- Small numbers are converted and multiplied by one, the others are rounded. -/
theorem isNaN_float_ofNat (n : Nat) : (Float.ofNat n).isNaN = false := by
  change (Float.ofScientific n false 0).isNaN = false
  unfold Float.ofScientific
  split
  · change (Float.Model.pack (UnpackedFloat.mul .binary64 (Float.Model.ofUInt64 n.toUInt64).unpack
      Float.exactlyRepresentablePowersOfTen[0].toModel.unpack)).isNaN = false
    rw [isNaN_pack, unpack_one]
    exact isNaN_mul_finite ((isNaN_pack _).trans (isNaN_ofInt _)) _ _ _ _
  · exact (isNaN_pack _).trans (isNaN_ofScientific n)

/-- An integer taken as a float is a number. -/
theorem isNaN_float_ofInt (n : Int) : (Float.ofInt n).isNaN = false := by
  cases n with
  | ofNat n => exact isNaN_float_ofNat n
  | negSucc n => exact (isNaN_pack _).trans ((isNaN_neg _).trans (isNaN_float_ofNat _))

end RecordQuery.Number
