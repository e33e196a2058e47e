import RecordQuery.Proofs.Typing.Admission
import RecordQuery.Proofs.Values.Floats

/-!
# Comparing values

Whether a value is less than another one and whether the two are equal are computed by two functions
that share no code and treat null differently.  For two values whose types have an order in common
they fit together, and `Value.Compares` says how: swapping the values turns their order around, they
stand in the order of equals just if they are equal, and only what is no number has no place.

There are two reasons for that, and each pair of types has one of them.  Texts, times and integers
are compared by a total order (`Value.Compares.total`), and as soon as one of two numbers is a float
both are compared as floats (`Value.Compares.floats`).  So an integer and a float are in order if
the float nearest to the integer and the other one are.
-/

set_option autoImplicit false

namespace RecordQuery

variable {ρ : Type}

/-! ## The order of times -/

instance : Std.OrientedOrd TimeSpan where
  eq_swap := Std.OrientedOrd.eq_swap (α := Int)

instance : Std.LawfulEqOrd TimeSpan where
  compare_self := Std.ReflOrd.compare_self (α := Int)
  eq_of_compare {a b} same := by
    have nanoseconds : a.nanoseconds = b.nanoseconds := Std.LawfulEqOrd.eq_of_compare same
    cases a
    cases b
    cases nanoseconds
    rfl

instance : Std.OrientedOrd DateTime where
  eq_swap {a b} := by
    change Ordering.then _ (Ordering.then _ _) = (Ordering.then _ (Ordering.then _ _)).swap
    rw [Ordering.swap_then, Ordering.swap_then, ← Std.OrientedOrd.eq_swap,
      ← Std.OrientedOrd.eq_swap, ← Std.OrientedOrd.eq_swap]

instance : Std.LawfulEqOrd DateTime where
  compare_self {a} := by
    change Ordering.then _ (Ordering.then _ _) = _
    rw [Std.ReflOrd.compare_self, Std.ReflOrd.compare_self, Std.ReflOrd.compare_self]
    rfl
  eq_of_compare {a b} same := by
    obtain ⟨day, rest⟩ := Ordering.then_eq_eq.1 same
    obtain ⟨second, nanosecond⟩ := Ordering.then_eq_eq.1 rest
    rcases a with ⟨⟨_, _⟩, ⟨_, _, _, _⟩⟩
    rcases b with ⟨⟨_, _⟩, ⟨_, _, _, _⟩⟩
    cases Std.LawfulEqOrd.eq_of_compare day
    cases Std.LawfulEqOrd.eq_of_compare second
    cases Std.LawfulEqOrd.eq_of_compare nanosecond
    rfl

/-! ## Values in order -/

namespace Value

/-- A float that is no number. -/
def isNaN : Value ρ → Bool
  | .float x => x.isNaN
  | _ => false

variable [BEq ρ] {a b : Value ρ}

/-- The order of two values and their equality fit together. -/
structure Compares (a b : Value ρ) : Prop where
  swap : b.compare? a = (a.compare? b).map Ordering.swap
  eq_iff : a.compare? b = some .eq ↔ a.looseEq b = true
  none_iff : a.compare? b = none ↔ a.isNaN = true ∨ b.isNaN = true

/-- What is compared by a total order fits together. -/
theorem Compares.total {α : Type} [Ord α] [Std.OrientedOrd α] [Std.LawfulEqOrd α] {x y : α}
    (order : a.compare? b = some (compare x y)) (back : b.compare? a = some (compare y x))
    (equality : a.looseEq b = true ↔ x = y) (left_number : a.isNaN = false)
    (right_number : b.isNaN = false) : Compares a b where
  swap := by rw [order, back, Std.OrientedOrd.eq_swap, Option.map_some]
  eq_iff := by rw [order, equality, Option.some_inj, Std.LawfulEqOrd.compare_eq_iff_eq]
  none_iff := by simp [order, left_number, right_number]

/-- What is compared by the order of floats fits together. -/
theorem Compares.floats {x y : Float} (order : a.compare? b = compareFloats x y)
    (back : b.compare? a = compareFloats y x) (equality : a.looseEq b = (x == y))
    (left_number : a.isNaN = x.isNaN) (right_number : b.isNaN = y.isNaN) : Compares a b where
  swap := by rw [order, back, Number.compareFloats_swap]
  eq_iff := by rw [order, equality, Number.compareFloats_eq_eq_iff]
  none_iff := by rw [order, left_number, right_number, Number.compareFloats_eq_none_iff]

/-- Whatever has a type that has an order in common with another one fits together with the values
of that one, unless one of the two is null. -/
theorem compares_of_isOrdered {left right : ValueType ρ} (ordered : left.isOrdered right = true)
    (ha : left.Admits a) (hb : right.Admits b) (left_value : a ≠ .null) (right_value : b ≠ .null) :
    Compares a b := by
  cases ha with
  | null => exact absurd rfl left_value
  | boolean | record | sequence => cases right <;> cases ordered
  | string =>
      cases hb with
      | null => exact absurd rfl right_value
      | string => exact .total rfl rfl beq_iff_eq rfl rfl
      | _ => cases ordered
  | timeSpan =>
      cases hb with
      | null => exact absurd rfl right_value
      | timeSpan => exact .total rfl rfl decide_eq_true_iff rfl rfl
      | _ => cases ordered
  | dateTime =>
      cases hb with
      | null => exact absurd rfl right_value
      | dateTime => exact .total rfl rfl decide_eq_true_iff rfl rfl
      | _ => cases ordered
  | @integer m =>
      cases hb with
      | null => exact absurd rfl right_value
      | integer => exact .total rfl rfl beq_iff_eq rfl rfl
      | float =>
          exact .floats rfl rfl rfl (Number.isNaN_float_ofInt m.toInt).symm rfl
      | _ => cases ordered
  | float =>
      cases hb with
      | null => exact absurd rfl right_value
      | @integer n => exact .floats rfl rfl rfl rfl (Number.isNaN_float_ofInt n.toInt).symm
      | float => exact .floats rfl rfl rfl rfl rfl
      | _ => cases ordered

omit [BEq ρ] in
/-- Null has no place in any order. -/
theorem compare?_of_null (null : a = .null ∨ b = .null) : a.compare? b = none := by
  rcases null with rfl | rfl
  · cases b <;> rfl
  · cases a <;> rfl

theorem looseEq_of_null (null : a = .null ∨ b = .null) :
    a.looseEq b = true ↔ a = .null ∧ b = .null := by
  rcases null with rfl | rfl
  · cases b <;> simp [looseEq, sameSize, float?]
  · cases a <;> simp [looseEq, sameSize, float?]

/-- Swapping two values turns their order around, also if there is a null among them. -/
theorem compare?_swap {left right : ValueType ρ} (ordered : left.isOrdered right = true)
    (ha : left.Admits a) (hb : right.Admits b) :
    b.compare? a = (a.compare? b).map Ordering.swap := by
  by_cases null : a = .null ∨ b = .null
  · rw [compare?_of_null null, compare?_of_null null.symm]
    rfl
  · obtain ⟨left_value, right_value⟩ := not_or.1 null
    exact (compares_of_isOrdered ordered ha hb left_value right_value).swap

end Value

/-! ## The operators -/

namespace BinaryOp

variable [BEq ρ] {a b : Value ρ}

/-- The operator finds true. -/
def Holds (op : BinaryOp) (a b : Value ρ) : Prop := op.apply a b = .boolean true

theorem equal_holds_iff : equal.Holds a b ↔ a.looseEq b = true := by
  rw [Holds, apply, Value.boolean.injEq]

theorem notEqual_holds_iff : notEqual.Holds a b ↔ ¬ equal.Holds a b := by
  rw [equal_holds_iff, Holds, apply, Value.boolean.injEq, Bool.not_eq_true', Bool.not_eq_true]

omit [BEq ρ] in
theorem ordered_eq_true_iff {accepts : Ordering → Bool} :
    ordered accepts a b = .boolean true ↔ ∃ order ∈ a.compare? b, accepts order = true := by
  rw [ordered, Value.boolean.injEq, Option.any_eq_true]
  rfl

omit [BEq ρ] in
/-- With the values swapped, an operator asks for what another one asks for without. -/
theorem ordered_swap {accepts accepts' : Ordering → Bool}
    (swap : b.compare? a = (a.compare? b).map Ordering.swap)
    (turned : ∀ order : Ordering, accepts order.swap = accepts' order) :
    ordered accepts b a = ordered accepts' a b := by
  rw [ordered, ordered, swap, Option.any_map]
  exact congrArg (fun asks => Value.boolean ((a.compare? b).any asks)) (funext turned)

/-- An operator that asks for an order finds nothing where there is none. -/
theorem not_holds_of_null {op : BinaryOp} (mem : op ∈ [less, lessEqual, greater, greaterEqual])
    (null : a = .null ∨ b = .null) : ¬ op.Holds a b := by
  have nowhere (accepts : Ordering → Bool) : ordered accepts a b ≠ .boolean true := by
    rw [Ne, ordered_eq_true_iff, Value.compare?_of_null null]
    rintro ⟨order, ⟨⟩, _⟩
  simp only [List.mem_cons, List.not_mem_nil, or_false] at mem
  rcases mem with rfl | rfl | rfl | rfl <;> exact nowhere _

/-- On two values that have a place in the order, the operators ask what that order is. -/
theorem holds_iff_of_order {order : Ordering} (compares : a.Compares b)
    (place : a.compare? b = some order) :
    (less.Holds a b ↔ order = .lt) ∧ (equal.Holds a b ↔ order = .eq) ∧
      (greater.Holds a b ↔ order = .gt) ∧ (lessEqual.Holds a b ↔ order = .lt ∨ order = .eq) := by
  have asks (op : BinaryOp) (accepts : Ordering → Bool)
      (means : op.apply a b = ordered accepts a b) : op.Holds a b ↔ accepts order = true := by
    rw [Holds, means, ordered_eq_true_iff, place]
    simp
  refine ⟨?_, ?_, ?_, ?_⟩
  · rw [asks less _ rfl]
    exact beq_iff_eq
  · rw [equal_holds_iff, ← compares.eq_iff, place, Option.some_inj]
  · rw [asks greater _ rfl]
    exact beq_iff_eq
  · rw [asks lessEqual _ rfl]
    cases order <;> decide

theorem greater_apply_swap (swap : b.compare? a = (a.compare? b).map Ordering.swap) :
    greater.apply b a = less.apply a b :=
  ordered_swap swap fun order => by cases order <;> rfl

theorem greaterEqual_apply_swap (swap : b.compare? a = (a.compare? b).map Ordering.swap) :
    greaterEqual.apply b a = lessEqual.apply a b :=
  ordered_swap swap fun order => by cases order <;> rfl

/-- The relation that an order is. -/
def ofOrdering : Ordering → BinaryOp
  | .lt => less
  | .eq => equal
  | .gt => greater

/-- Of two values that have a place in the order exactly one relation holds. -/
theorem existsUnique_holds {order : Ordering} (compares : a.Compares b)
    (place : a.compare? b = some order) :
    ∃! op, op ∈ [less, equal, greater] ∧ op.Holds a b := by
  obtain ⟨is_less, is_equal, is_greater, -⟩ := holds_iff_of_order compares place
  refine ⟨ofOrdering order, ?_, ?_⟩
  · cases order with
    | lt => exact ⟨by decide, is_less.2 rfl⟩
    | eq => exact ⟨by decide, is_equal.2 rfl⟩
    | gt => exact ⟨by decide, is_greater.2 rfl⟩
  · rintro op ⟨mem, holds⟩
    simp only [List.mem_cons, List.not_mem_nil, or_false] at mem
    rcases mem with rfl | rfl | rfl
    · rw [is_less.1 holds, ofOrdering]
    · rw [is_equal.1 holds, ofOrdering]
    · rw [is_greater.1 holds, ofOrdering]

end BinaryOp

open BinaryOp in
/-- The relations are coherent on values of two types that have an order in common, null included.
`<` is `>` and `<=` is `>=` with the values swapped.  Of two values that are neither null nor a
float that is no number exactly one of `<`, `==` and `>` holds, and `<=` holds if one of the first
two does.  With a null nothing is in order, and only another null is equal to it.  And `!=` always
holds just where `==` does not. -/
theorem relations_coherent [BEq ρ] {left right : ValueType ρ} {a b : Value ρ}
    (ordered : left.isOrdered right = true) (ha : left.Admits a) (hb : right.Admits b) :
    (less.Holds a b ↔ greater.Holds b a) ∧ (lessEqual.Holds a b ↔ greaterEqual.Holds b a) ∧
    (a ≠ .null → b ≠ .null → a.isNaN = false → b.isNaN = false →
      (∃! op, op ∈ [less, equal, greater] ∧ op.Holds a b) ∧
      (lessEqual.Holds a b ↔ less.Holds a b ∨ equal.Holds a b)) ∧
    (a = .null ∨ b = .null →
      (∀ op ∈ [less, lessEqual, greater, greaterEqual], ¬ op.Holds a b) ∧
      (equal.Holds a b ↔ a = .null ∧ b = .null)) ∧
    ∀ c d : Value ρ, notEqual.Holds c d ↔ ¬ equal.Holds c d := by
  have swap := Value.compare?_swap ordered ha hb
  refine ⟨?_, ?_, ?_, ?_, fun _ _ => notEqual_holds_iff⟩
  · rw [Holds, Holds, greater_apply_swap swap]
  · rw [Holds, Holds, greaterEqual_apply_swap swap]
  · intro left_value right_value left_number right_number
    have compares := Value.compares_of_isOrdered ordered ha hb left_value right_value
    have numbers : ¬ (a.isNaN = true ∨ b.isNaN = true) := by simp [left_number, right_number]
    obtain ⟨order, place⟩ := Option.ne_none_iff_exists'.1 (mt compares.none_iff.1 numbers)
    obtain ⟨is_less, is_equal, -, is_lessEqual⟩ := holds_iff_of_order compares place
    exact ⟨existsUnique_holds compares place, by rw [is_less, is_equal, is_lessEqual]⟩
  · intro null
    exact ⟨fun op mem => not_holds_of_null mem null,
      equal_holds_iff.trans (Value.looseEq_of_null null)⟩

open BinaryOp in
/-- The integer is greater by one than the float, but the float nearest to it is the same.  So the
two are equal and neither is less, and with null nothing is in order. -/
theorem relations_coherent_rounded :
    equal.Holds (.integer 9007199254740993 : Value Nat) (.float 9007199254740992) ∧
    (∃! op, op ∈ [less, equal, greater] ∧
      op.Holds (.integer 9007199254740993 : Value Nat) (.float 9007199254740992)) ∧
    ¬ lessEqual.Holds (.integer 9007199254740993 : Value Nat) .null := by
  have ordered : (ValueType.integer : ValueType Nat).isOrdered .float = true := rfl
  refine ⟨equal_holds_iff.2 (by decide), ?_, ?_⟩
  · exact ((relations_coherent ordered .integer .float).2.2.1 nofun nofun rfl
      (by decide +kernel)).1
  · exact ((relations_coherent ordered .integer .null).2.2.2.1 (.inr rfl)).1 lessEqual (by decide)

end RecordQuery
