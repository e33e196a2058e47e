import RecordQuery.Proofs.Typing.Nullness

/-!
# Integer arithmetic

Integers have 64 bits, and every operator cuts its result down to them.  For the operators that are
made of sums and products this does not matter until the end: an expression has the value that exact
arithmetic gives it, cut down once, whatever overflows on the way (`arithmetic_modulo_word`).

`Expr.Exact` says what an expression is in exact arithmetic.  Numbers are cut down by `Int64.ofInt`,
which keeps sums, differences and products, so that the induction has a line for each of them.  To
shift to the left is to multiply by a power of two, and to turn the bits of a number is to take it
from minus one.

A quotient is no such operator.  It is cut toward zero, and with the remainder it makes up the
dividend, also where the exact quotient is out of range.
-/

set_option autoImplicit false

namespace RecordQuery

variable {ρ : Type}

/-! ## Words -/

/-- The amount of a shift counts modulo the number of bits. -/
theorem toNat_shiftAmount (amount : Int64) :
    (amount.toBitVec.smod 64).toNat = (amount.toInt % 64).toNat := by
  have counts : (amount.toBitVec.smod 64).toInt = amount.toInt % 64 := by
    rw [BitVec.toInt_smod, Int.fmod_eq_emod_of_nonneg _ (by decide)]
    rfl
  have positive : (amount.toBitVec.smod 64).msb = false := by
    rw [BitVec.msb_eq_toInt, counts, decide_eq_false_iff_not, Int.not_lt]
    exact Int.emod_nonneg _ (by decide)
  rw [← counts, BitVec.toNat_toInt_of_msb _ positive]

theorem shiftLeft_eq_mul (n amount : Int64) :
    n <<< amount = n * Int64.ofInt (2 ^ (amount.toInt % 64).toNat) := by
  refine Int64.toBitVec_inj.1 ?_
  rw [Int64.toBitVec_shiftLeft, BitVec.shiftLeft_eq', toNat_shiftAmount,
    BitVec.shiftLeft_eq_mul_twoPow, Int64.toBitVec_mul, Int64.toBitVec_ofInt]
  congr 1
  refine BitVec.eq_of_toNat_eq ?_
  rw [BitVec.toNat_twoPow, BitVec.toNat_ofInt]
  norm_cast

/-- Quotient and remainder make up the dividend, also where the quotient is cut down. -/
theorem div_mul_add_mod (a b : Int64) : a / b * b + a % b = a := by
  refine Int64.toInt_inj.1 ?_
  rw [Int64.toInt_add, Int64.toInt_mul, Int64.toInt_div, Int64.toInt_mod, Int.bmod_mul_bmod,
    Int.bmod_add_bmod, Int.tdiv_mul_add_tmod]
  exact a.toInt_bmod

/-- The remainder has the sign of the dividend, unless it is zero, and is smaller than the divisor.
-/
theorem mod_bounds (a : Int64) {b : Int64} (divisor : b ≠ 0) :
    (a % b = 0 ∨ (a % b).toInt.sign = a.toInt.sign) ∧
      (a % b).toInt.natAbs < b.toInt.natAbs := by
  have nonzero : b.toInt ≠ 0 := fun zero => divisor (Int64.toInt_inj.1 zero)
  rw [Int64.toInt_mod]
  refine ⟨?_, ?_⟩
  · by_cases divides : b.toInt ∣ a.toInt
    · exact .inl (Int64.toInt_inj.1 ((Int64.toInt_mod a b).trans (Int.tmod_eq_zero_of_dvd divides)))
    · exact .inr (by rw [Int.sign_tmod, if_neg divides])
  · rw [Int.natAbs_tmod]
    exact Nat.mod_lt _ (Int.natAbs_pos.2 nonzero)

/-! ## Expressions that find a value -/

namespace Expr

variable [BEq ρ] {frames : Frames ρ} {expr left right : Expr ρ}

/-- The evaluation finds a value and leaves the frames as they were. -/
def Yields (expr : Expr ρ) (frames : Frames ρ) (value : Value ρ) : Prop :=
  expr.eval.run frames = (value, frames)

theorem Yields.unary (op : UnaryOp) {value : Value ρ} (yields : expr.Yields frames value) :
    (Expr.unary op expr).Yields frames (op.apply value) := by
  rw [Yields, eval, Evaluation.run_bind yields]
  rfl

theorem Yields.binary {op : BinaryOp} (strict : op.isStrict = true) (type : ValueType ρ)
    {a b : Value ρ} (left_yields : left.Yields frames a) (right_yields : right.Yields frames b) :
    (Expr.binary op type left right).Yields frames (op.apply a b) := by
  obtain ⟨other, other'⟩ := BinaryOp.ne_and_or_of_isStrict strict
  rw [Yields, eval, Evaluation.run_bind left_yields, Evaluation.run_bind right_yields]
  · rfl
  · exact other
  · exact other'

/-- An input, or a member that is read from there on. -/
inductive IsPath : Expr ρ → Prop
  | input {depth : Nat} {type : ValueType ρ} : IsPath (.input depth type)
  | member {base : Expr ρ} {read : Member ρ} (path : IsPath base) : IsPath (.member base read)

theorem IsPath.yields (path : expr.IsPath) : expr.Yields frames (expr.valueOver frames) := by
  induction path with
  | input => rfl
  | member _ ih =>
      rw [Yields, valueOver, eval, Evaluation.run_bind ih]
      rfl

/-! ## Exact arithmetic -/

/-- What an expression over literals and integers that are read is in exact arithmetic. -/
inductive Exact (frames : Frames ρ) : Expr ρ → Int → Prop
  | literal {k : Int32} : Exact frames (.literal (.integer k)) k.toInt
  | read {path : Expr ρ} {n : Int64} (isPath : path.IsPath)
      (value : path.valueOver frames = .integer n) : Exact frames path n.toInt
  | negate {operand : Expr ρ} {n : Int} (exact_ : Exact frames operand n) :
      Exact frames (.unary .negate operand) (-n)
  | bitNot {operand : Expr ρ} {n : Int} (exact_ : Exact frames operand n) :
      Exact frames (.unary .bitNot operand) (-n - 1)
  | add {type : ValueType ρ} {left right : Expr ρ} {m n : Int} (left_exact : Exact frames left m)
      (right_exact : Exact frames right n) : Exact frames (.binary .add type left right) (m + n)
  | subtract {type : ValueType ρ} {left right : Expr ρ} {m n : Int}
      (left_exact : Exact frames left m) (right_exact : Exact frames right n) :
      Exact frames (.binary .subtract type left right) (m - n)
  | multiply {type : ValueType ρ} {left right : Expr ρ} {m n : Int}
      (left_exact : Exact frames left m) (right_exact : Exact frames right n) :
      Exact frames (.binary .multiply type left right) (m * n)
  /-- A literal amount counts modulo 64. -/
  | shiftLeft {type : ValueType ρ} {left : Expr ρ} {m : Int} {k : Int32}
      (left_exact : Exact frames left m) :
      Exact frames (.binary .shiftLeft type left (.literal (.integer k)))
        (m * 2 ^ (k.toInt % 64).toNat)

/-- The evaluation finds the exact value cut down to a word. -/
theorem Exact.yields {n : Int} (exact_ : expr.Exact frames n) :
    expr.Yields frames (.integer (Int64.ofInt n)) := by
  induction exact_ with
  | @literal k =>
      rw [Int64.ofInt_int32ToInt]
      rfl
  | read isPath value =>
      rw [Int64.ofInt_toInt, ← value]
      exact isPath.yields
  | negate _ ih =>
      rw [Int64.ofInt_neg]
      exact ih.unary .negate
  | @bitNot _ n _ ih =>
      have turned : Int64.ofInt (-n - 1) = ~~~Int64.ofInt n := by
        rw [Int64.not_eq_neg_sub, Int64.ofInt_sub, Int64.ofInt_neg]
        rfl
      rw [turned]
      exact ih.unary .bitNot
  | add _ _ ihLeft ihRight =>
      rw [Int64.ofInt_add]
      exact ihLeft.binary rfl _ ihRight
  | subtract _ _ ihLeft ihRight =>
      rw [Int64.ofInt_sub]
      exact ihLeft.binary rfl _ ihRight
  | multiply _ _ ihLeft ihRight =>
      rw [Int64.ofInt_mul]
      exact ihLeft.binary rfl _ ihRight
  | @shiftLeft type left m k _ ih =>
      have amount : (Expr.literal (.integer k) : Expr ρ).Yields frames (.integer k.toInt64) := rfl
      rw [Int64.ofInt_mul, ← Int32.toInt_toInt64, ← shiftLeft_eq_mul]
      exact ih.binary rfl _ amount

variable {a b : Int64}

/-- A quotient times the divisor, and the remainder added to it, is the dividend. -/
theorem Yields.reassembled (left_yields : left.Yields frames (.integer a))
    (right_yields : right.Yields frames (.integer b)) (divisor : b ≠ 0) :
    (Expr.binary .modulo .integer left right).Yields frames (.integer (a % b)) ∧
      (Expr.binary .add .integer
        (.binary .multiply .integer (.binary .divide .integer left right) right)
        (.binary .modulo .integer left right)).Yields frames (.integer a) := by
  have quotient : BinaryOp.apply (ρ := ρ) .divide (.integer a) (.integer b) = .integer (a / b) :=
    if_neg divisor
  have rest : BinaryOp.apply (ρ := ρ) .modulo (.integer a) (.integer b) = .integer (a % b) :=
    if_neg divisor
  have divided : (Expr.binary .divide .integer left right).Yields frames (.integer (a / b)) :=
    quotient ▸ left_yields.binary rfl .integer right_yields
  have left_over : (Expr.binary .modulo .integer left right).Yields frames (.integer (a % b)) :=
    rest ▸ left_yields.binary rfl .integer right_yields
  have multiplied : (Expr.binary .multiply .integer (.binary .divide .integer left right)
      right).Yields frames (.integer (a / b * b)) := divided.binary rfl .integer right_yields
  have sum : BinaryOp.apply (ρ := ρ) .add (.integer (a / b * b)) (.integer (a % b)) =
      .integer a := congrArg Value.integer (div_mul_add_mod a b)
  exact ⟨left_over, sum ▸ multiplied.binary rfl .integer left_over⟩

end Expr

/-- Integer arithmetic is exact modulo `2 ^ 64`.  Literals and integers that are read, put together
by sums, differences, products, negations, turned bits and shifts to the left by a literal, have the
exact value cut down into the signed range, whatever overflows on the way.  And whatever the
dividend is, the quotient by a divisor other than zero times the divisor, with the remainder added
to it, is the dividend.  The remainder is zero or of the sign of the dividend, and smaller than the
divisor. -/
theorem arithmetic_modulo_word [BEq ρ] (frames : Frames ρ) :
    (∀ (expr : Expr ρ) (n : Int), expr.Exact frames n →
      ∃ result : Int64, expr.Yields frames (.integer result) ∧ result.toInt = n.bmod (2 ^ 64)) ∧
    ∀ (left right : Expr ρ) (a b : Int64), left.Yields frames (.integer a) →
      right.Yields frames (.integer b) → b ≠ 0 →
      (Expr.binary .add .integer
        (.binary .multiply .integer (.binary .divide .integer left right) right)
        (.binary .modulo .integer left right)).Yields frames (.integer a) ∧
      ∃ rest : Int64, (Expr.binary .modulo .integer left right).Yields frames (.integer rest) ∧
        (rest = 0 ∨ rest.toInt.sign = a.toInt.sign) ∧
        rest.toInt.natAbs < b.toInt.natAbs := by
  refine ⟨?_, ?_⟩
  · intro expr n exact_
    exact ⟨.ofInt n, exact_.yields, Int64.toInt_ofInt⟩
  · intro left right a b left_yields right_yields divisor
    obtain ⟨left_over, whole⟩ := left_yields.reassembled right_yields divisor
    exact ⟨whole, a % b, left_over, mod_bounds a divisor⟩

/-- The content of a record that is one integer. -/
def Expr.content : Expr Int64 :=
  .member (.input 0 (.record "Box" [])) ⟨"content", .integer, .integer⟩

/-- With the bits of the least integer turned, squared and shifted by 65 there is overflow twice,
and by minus one the least integer cannot be divided. -/
theorem arithmetic_modulo_word_least :
    Expr.content.Exact (.start (.record Int64.minValue)) (-2 ^ 63) ∧
    (∃ result : Int64,
      (Expr.binary .shiftLeft .integer
        (.binary .multiply .integer (.unary .bitNot .content) (.unary .bitNot .content))
        (.literal (.integer 65))).Yields (.start (.record Int64.minValue)) (.integer result) ∧
      result.toInt = ((2 ^ 63 - 1) * (2 ^ 63 - 1) * 2 : Int).bmod (2 ^ 64)) ∧
    (Expr.binary .add .integer
      (.binary .multiply .integer
        (.binary .divide .integer .content (.unary .negate (.literal (.integer 1))))
        (.unary .negate (.literal (.integer 1))))
      (.binary .modulo .integer .content (.unary .negate (.literal (.integer 1))))).Yields
      (.start (.record Int64.minValue)) (.integer Int64.minValue) := by
  have path : Expr.content.IsPath := .member .input
  have read : Expr.content.Exact (.start (.record Int64.minValue)) Int64.minValue.toInt :=
    .read path rfl
  obtain ⟨wraps, divides⟩ := arithmetic_modulo_word (.start (.record Int64.minValue))
  refine ⟨read, ?_, ?_⟩
  · exact wraps _ _ (.shiftLeft (.multiply (.bitNot read) (.bitNot read)))
  · exact (divides .content (.unary .negate (.literal (.integer 1))) Int64.minValue (-1) rfl rfl
      (by decide)).1

end RecordQuery
