import RecordQuery.Proofs.Typing.Nullness

/-!
# Truth values

Null is a third truth value: it counts as false, and so does its negation.  An expression of boolean
type has it only from a boolean that was read.  Where no input and no member of boolean type that
the evaluation reads is null (`Expr.Definite`), the value is true or false
(`Expr.Typed.exists_truth`), whatever nulls are compared, counted or matched on the way.

The proof is by induction on typed trees.  Operators on booleans hand a null on from their operands,
which are booleans again.  Comparisons, pattern operators and questions are never null, and no
function gives a boolean.
-/

set_option autoImplicit false

namespace RecordQuery

variable {ρ : Type}

/-! ## Operators with a boolean result -/

namespace UnaryOp

/-- A boolean is what an operator on booleans gives. -/
theorem exists_truth {op : UnaryOp} (takes : op.takes (.boolean : ValueType ρ) = true)
    (truth : Bool) : ∃ result, op.apply (.boolean truth : Value ρ) = .boolean result := by
  cases op with
  | negate => cases takes
  | not => exact ⟨_, rfl⟩
  | bitNot => exact ⟨_, rfl⟩

end UnaryOp

namespace BinaryOp

variable {op : BinaryOp} {left right : ValueType ρ}

/-- A strict operator with a boolean result computes it from two booleans. -/
theorem exists_truth [BEq ρ] (gives : op.resultType? left right = some .boolean)
    (strict : op.isStrict = true) :
    left = .boolean ∧ right = .boolean ∧ ∀ a b : Bool,
      ∃ result, op.apply (.boolean a : Value ρ) (.boolean b) = .boolean result := by
  have arithmetic : left.arithmetic? right ≠ some .boolean := by
    intro gives
    rcases ValueType.arithmetic_cases gives with
      ⟨_, _, ⟨⟩⟩ | ⟨_, _, ⟨⟩⟩ | ⟨_, _, ⟨⟩⟩ | ⟨_, _, ⟨⟩⟩
  cases op with
  | or | and | equal | notEqual | less | lessEqual | greater | greaterEqual => cases strict
  | multiply | divide | modulo => exact absurd gives arithmetic
  | bitOr | bitXor | bitAnd =>
      simp only [resultType?] at gives
      split at gives
      · cases gives
      · exact ⟨rfl, rfl, fun _ _ => ⟨_, rfl⟩⟩
      · cases gives
  | shiftLeft | shiftRight =>
      simp only [resultType?] at gives
      split at gives <;> cases gives
  | add | subtract =>
      simp only [resultType?] at gives
      split at gives <;> first | exact absurd gives arithmetic | cases gives

end BinaryOp

/-! ## Booleans that are read -/

namespace Expr

/-- The value of the expression is read from an input or from a record. -/
inductive IsRead : Expr ρ → Prop
  | input {depth : Nat} {type : ValueType ρ} : IsRead (.input depth type)
  | member {base : Expr ρ} {read : Member ρ} : IsRead (.member base read)

variable [BEq ρ] {expr node next : Expr ρ} {frames after reached : Frames ρ}
  {types : List (ValueType ρ)}

/-- No boolean that the evaluation reads is null. -/
def Definite (expr : Expr ρ) (frames : Frames ρ) : Prop :=
  ∀ node reached, expr.Reaches frames node reached → node.IsRead → node.type = .boolean →
    node.valueOver reached ≠ .null

/-- What a call comes to, the evaluation that makes the call comes to. -/
theorem Calls.reaches (calls : expr.Calls frames next after)
    (reaches : next.Reaches after node reached) : expr.Reaches frames node reached := by
  induction reaches with
  | start => exact .call .start calls
  | call _ calls ih => exact .call ih calls

theorem Reaches.start_or_call (reaches : expr.Reaches frames node reached) :
    (node = expr ∧ reached = frames) ∨
      ∃ next after, expr.Calls frames next after ∧ next.Reaches after node reached := by
  induction reaches with
  | start => exact .inl ⟨rfl, rfl⟩
  | call _ calls ih =>
      rcases ih with ⟨rfl, rfl⟩ | ⟨next, after, first, reaches⟩
      · exact .inr ⟨_, _, calls, .start⟩
      · exact .inr ⟨next, after, first, .call reaches calls⟩

/-- No boolean is read as null by the expression itself, nor by the calls that it makes. -/
theorem definite_iff : expr.Definite frames ↔
    (expr.IsRead → expr.type = .boolean → expr.valueOver frames ≠ .null) ∧
      ∀ next after, expr.Calls frames next after → next.Definite after := by
  constructor
  · intro definite
    exact ⟨definite expr frames .start, fun _ _ calls _ _ reaches =>
      definite _ _ (calls.reaches reaches)⟩
  · rintro ⟨itself, called⟩ node reached reaches
    rcases reaches.start_or_call with ⟨rfl, rfl⟩ | ⟨next, after, calls, reaches⟩
    · exact itself
    · exact called next after calls node reached reaches

namespace Definite

theorem input {depth : Nat} {type : ValueType ρ} (found : frames.input depth ≠ .null) :
    (Expr.input depth type).Definite frames :=
  definite_iff.2 ⟨fun _ _ => found, fun _ _ calls => by cases calls⟩

theorem literal {value : Literal} : (Expr.literal value : Expr ρ).Definite frames :=
  definite_iff.2 ⟨nofun, fun _ _ calls => by cases calls⟩

theorem unary {op : UnaryOp} (operand : expr.Definite frames) :
    (Expr.unary op expr).Definite frames := by
  refine definite_iff.2 ⟨nofun, fun _ _ calls => ?_⟩
  cases calls with
  | unary => exact operand

theorem binary {op : BinaryOp} {type : ValueType ρ} {left right : Expr ρ}
    (left_definite : left.Definite frames) (right_definite : ∀ after, right.Definite after) :
    (Expr.binary op type left right).Definite frames := by
  refine definite_iff.2 ⟨nofun, fun _ _ calls => ?_⟩
  cases calls with
  | left => exact left_definite
  | conjunct | disjunct | right => exact right_definite _

end Definite

theorem Typed.exists_truth_of_isRead (typed : expr.Typed types) (isRead : expr.IsRead)
    (fit : frames.Fit types) (boolean : expr.type = .boolean) (definite : expr.Definite frames) :
    ∃ truth, expr.valueIn frames.environment = .boolean truth := by
  have admits := typed.admits fit
  have notNull := (definite_iff.1 definite).1 isRead boolean
  rw [(typed.runsIn frames fit.length).valueOver] at notNull
  rw [boolean] at admits
  exact admits.eq_null_or_boolean.resolve_left notNull

/-- Over frames that fit, an expression of boolean type is true or false unless a boolean is read as
null. -/
theorem Typed.exists_truth (typed : expr.Typed types) (fit : frames.Fit types)
    (boolean : expr.type = .boolean) (definite : expr.Definite frames) :
    ∃ truth, expr.valueIn frames.environment = .boolean truth := by
  induction typed with
  | @literal _ value => cases value <;> first | exact ⟨_, rfl⟩ | cases boolean
  | input bound => exact (Typed.input bound).exists_truth_of_isRead .input fit boolean definite
  | member base_typed listed =>
      exact (base_typed.member listed).exists_truth_of_isRead .member fit boolean definite
  | @unary types op operand operand_typed takes ih =>
      have boolean : operand.type = .boolean := boolean
      have definite := (definite_iff.1 definite).2 _ _ .unary
      obtain ⟨truth, value⟩ := ih fit boolean definite
      obtain ⟨result, gives⟩ := UnaryOp.exists_truth (boolean ▸ takes) truth
      exact ⟨result, by rw [valueIn, value, gives]⟩
  | @binary types op type left right left_typed right_typed gives ihLeft ihRight =>
      obtain rfl : type = .boolean := boolean
      cases strict : op.isStrict with
      | false => exact BinaryOp.apply_of_not_strict strict _ _
      | true =>
          obtain ⟨left_boolean, right_boolean, computes⟩ := BinaryOp.exists_truth gives strict
          have calls : (Expr.binary op .boolean left right).Calls frames right
              (left.eval.run frames).2 := .right (BinaryOp.ne_and_or_of_isStrict strict)
          rw [left_typed.runsIn frames fit.length] at calls
          have left_definite := (definite_iff.1 definite).2 _ _ .left
          have right_definite := (definite_iff.1 definite).2 _ _ calls
          obtain ⟨a, left_value⟩ := ihLeft fit left_boolean left_definite
          obtain ⟨b, right_value⟩ := ihRight fit right_boolean right_definite
          obtain ⟨result, gives⟩ := computes a b
          exact ⟨result, by rw [valueIn, left_value, right_value, gives]⟩
  | @pattern _ _ regex? => cases regex? <;> exact ⟨_, rfl⟩
  | @call _ function => cases function <;> cases boolean
  | @nested _ quantifier =>
      cases quantifier with
      | any | all => exact ⟨_, rfl⟩
      | count => cases boolean

end Expr

end RecordQuery
