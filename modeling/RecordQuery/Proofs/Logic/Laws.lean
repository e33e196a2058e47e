import RecordQuery.Json.Basic
import RecordQuery.Proofs.Logic.Composition
import RecordQuery.Proofs.Logic.Truth

/-!
# The laws of boolean queries

Texts are compared by the truth values that they have as expressions of one scope
(`Scope.Answers`).  A question `any` asks whether a count is positive, a question `all` whether two
counts are the same (`Quantifier.any_eq`, `Quantifier.all_eq`); so much holds on every input.

The laws with `!` need a value of the operand that is true or false.  They hold where no boolean is
read as null (`Expr.Definite`), and no other null can break them.  For `all` and its opposite the
booleans count that are read until the answer is settled.  Both questions go through the same
elements (`Quantifier.all_eq_not_any`).  `boolean_laws` states all laws for texts.
-/

set_option autoImplicit false

namespace RecordQuery

variable {ρ : Type}

/-! ## Operators -/

/-- The logical operators take booleans. -/
theorem Expr.ofBinary_logical {entry : BinaryEntry} {op : BinaryOp} {left right : Expr ρ}
    (stands : entry.operator = .value op) (logical : op = .and ∨ op = .or)
    (left_boolean : left.type = .boolean) (right_boolean : right.type = .boolean) :
    ofBinary entry left right = .ok (.binary op .boolean left right) := by
  refine ofBinary_eq_ok_iff.2 (.inl ⟨op, .boolean, stands, ?_, rfl⟩)
  rw [left_boolean, right_boolean]
  rcases logical with rfl | rfl <;> rfl

section Counts

variable [BEq ρ] {a b : Nat}

theorem BinaryOp.apply_greater_zero (small : a < 2 ^ 63) :
    greater.apply (.integer (Int64.ofNat a)) (.integer 0 : Value ρ) =
      .boolean (decide (0 < a)) := by
  have order : (compare (Int64.ofNat a) 0 == .gt) = decide (0 < a) := by
    have signed := Int64.toInt_ofNat_of_lt small
    have zero : (0 : Int64).toInt = 0 := rfl
    simp only [compare, compareOfLessAndEq, Int64.lt_iff_toInt_lt, ← Int64.toInt_inj, signed, zero]
    rcases Nat.eq_zero_or_pos a with rfl | positive
    · rfl
    · rw [if_neg (by omega), if_neg (by omega), decide_eq_true positive]
      rfl
  exact congrArg Value.boolean order

theorem BinaryOp.apply_equal_counts (small : a < 2 ^ 63) (small' : b < 2 ^ 63) :
    equal.apply (.integer (Int64.ofNat a)) (.integer (Int64.ofNat b) : Value ρ) =
      .boolean (decide (a = b)) := by
  have same : (Int64.ofNat a == Int64.ofNat b) = decide (a = b) := by
    rw [Bool.beq_eq_decide_eq, decide_eq_decide, ← Int64.toInt_inj, Int64.toInt_ofNat_of_lt small,
      Int64.toInt_ofNat_of_lt small', Nat.cast_inj]
  exact congrArg Value.boolean same

end Counts

namespace Quantifier

variable (passes : Value ρ → Bool) (elements : List (Value ρ))

theorem any_eq : elements.any passes = decide (0 < elements.countP passes) := by
  rw [Bool.eq_iff_iff, decide_eq_true_iff, List.any_eq_true, List.countP_pos_iff]

theorem all_eq : elements.all passes =
    decide (elements.countP passes = elements.countP fun _ => true) := by
  rw [Bool.eq_iff_iff, decide_eq_true_iff, List.all_eq_true, List.countP_true,
    List.countP_eq_length]

variable {passes elements}

/-- Every element passes where none fails, if the opposite of the test is right wherever the
question `all` comes to. -/
theorem all_eq_not_any {depth : Nat} {test : Evaluation ρ Bool} {below : List (Value ρ)}
    {frames : Frames ρ} {fails : Value ρ → Bool}
    (tests : ∀ element, test.run ⟨below ++ [element]⟩ = (passes element, ⟨below ++ [element]⟩))
    (length : below.length = depth) (kept : frames.inputs.take depth = below)
    (opposite : ∀ element ∈ elements,
      all.Tests depth test elements frames ⟨below ++ [element]⟩ → fails element = !passes element) :
    elements.all passes = !elements.any fails := by
  induction elements generalizing frames with
  | nil => rfl
  | cons element elements ih =>
      have entered : frames.enter depth element = ⟨below ++ [element]⟩ := by
        rw [Frames.enter, kept]
      have first := opposite element List.mem_cons_self (entered ▸ .here)
      cases passed : passes element with
      | false => rw [List.all_cons, List.any_cons, first, passed]; rfl
      | true =>
          -- The answer is open, so both questions go on with the same elements.
          have tested : test.run (frames.enter depth element) = (true, ⟨below ++ [element]⟩) := by
            rw [entered, tests, passed]
          have stays : (⟨below ++ [element]⟩ : Frames ρ).inputs.take depth = below := by
            rw [← length]
            exact List.take_left
          have others := ih stays fun other mem reached =>
            opposite other (List.mem_cons_of_mem _ mem) (.later tested rfl reached)
          rw [List.all_cons, List.any_cons, first, passed, others]
          rfl

end Quantifier

/-! ## Answers of texts -/

namespace Scope

variable [BEq ρ] {now : DateTime} {scope : Scope ρ} {frames : Frames ρ} {text : String}
  {whole : Expr ρ}

/-- The text is an expression of boolean type in the scope.  Over the frames it has the truth value,
and the frames are kept. -/
def Answers (now : DateTime) (scope : Scope ρ) (frames : Frames ρ) (text : String) (truth : Bool) :
    Prop :=
  ∃ whole : Expr ρ, scope.Compiles now text whole ∧ whole.type = .boolean ∧
    whole.eval.run frames = (.boolean truth, frames)

namespace Compiles

theorem runsIn (compiles : scope.Compiles now text whole)
    (fits : frames.inputs.length = scope.depth + 1) : whole.RunsIn frames :=
  compiles.typed.runsIn frames (by rw [fits, scope.length_types])

theorem answers {truth : Bool} (compiles : scope.Compiles now text whole)
    (boolean : whole.type = .boolean) (fits : frames.inputs.length = scope.depth + 1)
    (value : whole.valueIn frames.environment = .boolean truth) :
    scope.Answers now frames text truth :=
  ⟨whole, compiles, boolean, by rw [compiles.runsIn fits, value]⟩

end Compiles

end Scope

open Text (group negation)

/-! ## Laws of questions -/

section Laws

variable [BEq ρ] {now : DateTime} {scope : Scope ρ} {frames : Frames ρ} {element : ValueType ρ}
  {p q s r : String} {P Q S R : Expr ρ}

namespace Quantifier

theorem answers_any (source : scope.Compiles now s S) (sequence : S.type = .sequence element)
    (block : (scope.enter element).Compiles now r R) (boolean : R.type = .boolean)
    (fits : frames.inputs.length = scope.depth + 1)
    (countable : (S.eval.run frames).1.items.length < 2 ^ 63) :
    ∃ truth, scope.Answers now frames (any.block (group s) r) truth ∧
      scope.Answers now frames (Mark.greater.between (count.block (group s) r) "0") truth := by
  rw [source.runsIn fits] at countable
  have asked := source.group.block sequence block boolean any
  have joins : Mark.greater.binary? = some ⟨.greater, 70, .value .greater⟩ := rfl
  have counted := source.group.block_between sequence block boolean count joins
    (Reads.zero scope _) Word.atEnd_nil rfl
  refine ⟨_, asked.answers rfl fits rfl, counted.answers rfl fits ?_⟩
  rw [any_eq]
  exact BinaryOp.apply_greater_zero (Nat.lt_of_le_of_lt (List.countP_le_length) countable)

theorem answers_all (source : scope.Compiles now s S) (sequence : S.type = .sequence element)
    (block : (scope.enter element).Compiles now r R) (boolean : R.type = .boolean)
    (fits : frames.inputs.length = scope.depth + 1)
    (countable : (S.eval.run frames).1.items.length < 2 ^ 63) :
    ∃ truth, scope.Answers now frames (all.block (group s) r) truth ∧
      scope.Answers now frames (Mark.equal.between (count.block (group s) r)
        (group (count.block (group s) "true"))) truth := by
  rw [source.runsIn fits] at countable
  have small : ∀ passes : Value ρ → Bool,
      (S.valueIn frames.environment).items.countP passes < 2 ^ 63 :=
    fun _ => Nat.lt_of_le_of_lt List.countP_le_length countable
  have asked := source.group.block sequence block boolean all
  have total := source.group.block sequence (scope.enter element).compiles_true rfl count
  have joins : Mark.equal.binary? = some ⟨.equal, 60, .value .equal⟩ := rfl
  have counted := source.group.block_between sequence block boolean count joins
    (total.group_at_end _) Word.atEnd_nil rfl
  refine ⟨_, asked.answers rfl fits rfl, counted.answers rfl fits ?_⟩
  rw [all_eq]
  exact BinaryOp.apply_equal_counts (small _) (small _)

/-- A question whose block is never undecided asks whether no element fails. -/
theorem answers_not_any_not (source : scope.Compiles now s S)
    (sequence : S.type = .sequence element) (block : (scope.enter element).Compiles now r R)
    (boolean : R.type = .boolean) (fit : frames.Fit scope.types)
    (definite : ∀ reached, (Expr.nested all (scope.depth + 1) S R).Calls frames R reached →
      R.Definite reached) :
    ∃ truth, scope.Answers now frames (all.block (group s) r) truth ∧
      scope.Answers now frames (negation (any.block (group s) (negation r))) truth := by
  have fits : frames.inputs.length = scope.depth + 1 := by rw [fit.length, scope.length_types]
  have asked := source.group.block sequence block boolean all
  have opposite := source.group.block sequence (block.negation boolean) boolean any
  refine ⟨_, asked.answers rfl fits rfl, (opposite.negation rfl).answers rfl fits ?_⟩
  have inner_typed : R.Typed (scope.types ++ [element]) := scope.types_enter element ▸ block.typed
  have runs : ∀ value, R.RunsIn ⟨frames.inputs ++ [value]⟩ := fun value =>
    inner_typed.runsIn _ (Frames.fits_append fit.length)
  have decided : ∀ value ∈ (S.valueIn frames.environment).items,
      all.Tests (scope.depth + 1) (Value.isTrue <$> R.eval)
        (S.valueIn frames.environment).items frames ⟨frames.inputs ++ [value]⟩ →
      ((Expr.unary .not R).valueIn (value :: frames.environment)).isTrue =
        !(R.valueIn (value :: frames.environment)).isTrue := by
    intro value mem reached
    have calls : (Expr.nested all (scope.depth + 1) S R).Calls frames R
        ⟨frames.inputs ++ [value]⟩ := .predicate (by rwa [source.runsIn fits])
    have inside := fit.inside (.entered source.typed sequence mem)
    obtain ⟨truth, same⟩ := inner_typed.exists_truth inside boolean (definite _ calls)
    rw [Frames.environment, List.reverse_append] at same
    have same : R.valueIn (value :: frames.environment) = .boolean truth := same
    rw [Expr.valueIn, same]
    rfl
  have kept : frames.inputs.take (scope.depth + 1) = frames.inputs := by
    rw [← fits, List.take_length]
  rw [all_eq_not_any (fun value => (runs value).test) fits kept decided]
  rfl

end Quantifier

/-! ## Laws of negation -/

/-- A text and its negation have opposite truth values. -/
theorem Scope.answers_negation (operand : scope.Compiles now p P) (boolean : P.type = .boolean)
    (fit : frames.Fit scope.types) (definite : P.Definite frames) :
    ∃ truth, scope.Answers now frames (group p) truth ∧
      scope.Answers now frames (negation p) (!truth) := by
  have fits : frames.inputs.length = scope.depth + 1 := by rw [fit.length, scope.length_types]
  obtain ⟨truth, value⟩ := operand.typed.exists_truth fit boolean definite
  refine ⟨truth, operand.group.answers boolean fits value,
    (operand.negation boolean).answers boolean fits ?_⟩
  rw [Expr.valueIn, value]
  rfl

/-- Two logical operators are exchanged when the operands of the one, and the whole, are negated. -/
theorem Scope.answers_exchange {mark mark' : Mark} {entry entry' : BinaryEntry} {op op' : BinaryOp}
    (left : scope.Compiles now p P) (left_boolean : P.type = .boolean)
    (right : scope.Compiles now q Q) (right_boolean : Q.type = .boolean)
    (joins : mark.binary? = some entry) (joins' : mark'.binary? = some entry')
    (stands : entry.operator = .value op) (stands' : entry'.operator = .value op')
    (logical : op = .and ∨ op = .or) (logical' : op' = .and ∨ op' = .or)
    (exchange : ∀ a b : Bool, ∃ truth,
      op.apply (.boolean a) (.boolean b : Value ρ) = .boolean truth ∧
        op'.apply (.boolean !a) (.boolean !b : Value ρ) = .boolean !truth)
    (fit : frames.Fit scope.types) (left_definite : P.Definite frames)
    (right_definite : Q.Definite frames) :
    ∃ truth, scope.Answers now frames (negation (mark.between (group p) (group q))) truth ∧
      scope.Answers now frames (mark'.between (group (negation p)) (group (negation q))) truth := by
  have fits : frames.inputs.length = scope.depth + 1 := by rw [fit.length, scope.length_types]
  obtain ⟨a, left_value⟩ := left.typed.exists_truth fit left_boolean left_definite
  obtain ⟨b, right_value⟩ := right.typed.exists_truth fit right_boolean right_definite
  obtain ⟨truth, value, value'⟩ := exchange a b
  have whole := Scope.Compiles.between joins left right
    (Expr.ofBinary_logical stands logical left_boolean right_boolean)
  have parts := Scope.Compiles.between joins' (left.negation left_boolean)
    (right.negation right_boolean)
    (Expr.ofBinary_logical stands' logical' left_boolean right_boolean)
  refine ⟨!truth, (whole.negation rfl).answers rfl fits ?_, parts.answers rfl fits ?_⟩
  · rw [Expr.valueIn, Expr.valueIn, left_value, right_value, value]
    rfl
  · rw [Expr.valueIn, Expr.valueIn, Expr.valueIn, left_value, right_value]
    exact value'

end Laws

/-- The classical laws of boolean queries.  Let `p` and `q` be texts of boolean expressions in a
scope, `s` the text of a sequence in it, and `r` that of a boolean expression for its elements.  The
texts below are expressions of boolean type in the scope, and over any frames for the scope each
pair of them has the same truth value, or the opposite one in the case of a single negation.

The laws of counts hold on every input; a sequence has fewer than `2 ^ 63` elements, so that it can
be counted.  The laws of negation hold where the evaluation reads no boolean as null: that of `p`
and of `q`, and that of `r` wherever the question `all` comes to it.  Readers keep to the types of
their members. -/
theorem boolean_laws {ρ : Type} [BEq ρ] {now : DateTime} {scope : Scope ρ} {frames : Frames ρ}
    {element : ValueType ρ} {p q s r : String} {P Q S R : Expr ρ}
    (p_compiles : scope.Compiles now p P) (p_boolean : P.type = .boolean)
    (q_compiles : scope.Compiles now q Q) (q_boolean : Q.type = .boolean)
    (s_compiles : scope.Compiles now s S) (sequence : S.type = .sequence element)
    (r_compiles : (scope.enter element).Compiles now r R) (r_boolean : R.type = .boolean)
    (fits : frames.inputs.length = scope.depth + 1) :
    ((S.eval.run frames).1.items.length < 2 ^ 63 →
      (∃ truth, scope.Answers now frames (Quantifier.any.block (group s) r) truth ∧
        scope.Answers now frames
          (Mark.greater.between (Quantifier.count.block (group s) r) "0") truth) ∧
      (∃ truth, scope.Answers now frames (Quantifier.all.block (group s) r) truth ∧
        scope.Answers now frames
          (Mark.equal.between (Quantifier.count.block (group s) r)
            (group (Quantifier.count.block (group s) "true"))) truth)) ∧
    (frames.Fit scope.types →
      (P.Definite frames → ∃ truth, scope.Answers now frames (group p) truth ∧
        scope.Answers now frames (negation p) (!truth)) ∧
      (P.Definite frames → Q.Definite frames →
        (∃ truth,
          scope.Answers now frames (negation (Mark.and.between (group p) (group q))) truth ∧
          scope.Answers now frames
            (Mark.or.between (group (negation p)) (group (negation q))) truth) ∧
        (∃ truth,
          scope.Answers now frames (negation (Mark.or.between (group p) (group q))) truth ∧
          scope.Answers now frames
            (Mark.and.between (group (negation p)) (group (negation q))) truth)) ∧
      ((∀ reached, (Expr.nested .all (scope.depth + 1) S R).Calls frames R reached →
          R.Definite reached) →
        ∃ truth, scope.Answers now frames (Quantifier.all.block (group s) r) truth ∧
          scope.Answers now frames
            (negation (Quantifier.any.block (group s) (negation r))) truth)) := by
  have conjunction : Mark.and.binary? = some ⟨.and, 10, .value .and⟩ := rfl
  have disjunction : Mark.or.binary? = some ⟨.or, 0, .value .or⟩ := rfl
  refine ⟨fun countable => ⟨?_, ?_⟩, fun fit => ⟨?_, fun definite definite' => ⟨?_, ?_⟩, ?_⟩⟩
  · exact Quantifier.answers_any s_compiles sequence r_compiles r_boolean fits countable
  · exact Quantifier.answers_all s_compiles sequence r_compiles r_boolean fits countable
  · exact Scope.answers_negation p_compiles p_boolean fit
  · exact Scope.answers_exchange p_compiles p_boolean q_compiles q_boolean conjunction disjunction
      rfl rfl (.inl rfl) (.inr rfl)
      (fun a b => ⟨a && b, rfl, by cases a <;> cases b <;> rfl⟩) fit definite definite'
  · exact Scope.answers_exchange p_compiles p_boolean q_compiles q_boolean disjunction conjunction
      rfl rfl (.inr rfl) (.inl rfl)
      (fun a b => ⟨a || b, rfl, by cases a <;> cases b <;> rfl⟩) fit definite definite'
  · exact Quantifier.answers_not_any_not s_compiles sequence r_compiles r_boolean fit

theorem boolean_laws_unknown_quotient :
    ∃ (now : DateTime) (scope : Scope Json) (frames : Frames Json) (P Q S R : Expr Json),
      scope = ⟨.boolean, [.sequence .boolean]⟩ ∧
      frames = ⟨[.sequence [.boolean false, .boolean true], .boolean true]⟩ ∧
      frames.Fit scope.types ∧
      (scope.Compiles now "$" P ∧ P.Definite frames) ∧
      (scope.Compiles now "1 / 0 > 2" Q ∧ Q.Definite frames) ∧
      (scope.Compiles now "$$" S ∧ (S.eval.run frames).1.items.length < 2 ^ 63) ∧
      ((scope.enter .boolean).Compiles now "!$" R ∧
        ∀ reached, (Expr.nested .all 2 S R).Calls frames R reached → R.Definite reached) ∧
      (∃ truth, scope.Answers now frames "($$) any \x7b !$ \x7d" truth ∧
        scope.Answers now frames "($$) count \x7b !$ \x7d > 0" truth) ∧
      (∃ truth, scope.Answers now frames "!(($) && (1 / 0 > 2))" truth ∧
        scope.Answers now frames "(!($)) || (!(1 / 0 > 2))" truth) ∧
      (∃ truth, scope.Answers now frames "($$) all \x7b !$ \x7d" truth ∧
        scope.Answers now frames "!(($$) any \x7b !(!$) \x7d)" truth) := by
  let now : DateTime := ⟨⟨0, by decide⟩, .midnight⟩
  let scope : Scope Json := ⟨.boolean, [.sequence .boolean]⟩
  let frames : Frames Json := ⟨[.sequence [.boolean false, .boolean true], .boolean true]⟩
  let Q : Expr Json := .binary .greater .boolean
    (.binary .divide .integer (.literal (.integer 1)) (.literal (.integer 0)))
    (.literal (.integer 2))
  let R : Expr Json := .unary .not (.input 2 .boolean)
  have p_parses : parse now (.boolean : ValueType Json) "$" = .ok (.input 0 .boolean) := by cbv
  have q_parses : parse now (.boolean : ValueType Json) "1 / 0 > 2" = .ok Q := by cbv
  have r_parses : parse now (.boolean : ValueType Json) "!$" =
      .ok (.unary .not (.input 0 .boolean)) := by cbv
  have p : scope.Compiles now "$" (.input 1 .boolean) :=
    (Scope.enter_compiles ⟨.sequence .boolean, []⟩ p_parses).1
  have q : scope.Compiles now "1 / 0 > 2" Q :=
    (Scope.enter_compiles ⟨.sequence .boolean, []⟩ q_parses).1
  have r : (scope.enter .boolean).Compiles now "!$" R := (scope.enter_compiles r_parses).1
  have s : scope.Compiles now "$$" (.input 0 (.sequence .boolean)) := by
    refine Scope.compiles_iff.2 ⟨[], ?_, Word.atEnd_nil⟩
    exact .expression (.input rfl rfl rfl) (.noSuffix Word.read?_nil (by rintro ⟨⟩))
      (.stop Word.read?_nil (Word.stops_ending _))
  have items : (ValueType.sequence .boolean : ValueType Json).Admits
      (.sequence [.boolean false, .boolean true]) :=
    .sequence (List.forall_mem_cons.2 ⟨.boolean, List.forall_mem_singleton.2 .boolean⟩)
  have fit : frames.Fit scope.types :=
    (Frames.Fit.start (.sequence .boolean) items).enter .boolean .boolean
  have fits : frames.inputs.length = scope.depth + 1 := rfl
  have p_definite : (Expr.input 1 .boolean : Expr Json).Definite frames :=
    .input (by rintro ⟨⟩)
  have q_definite : Q.Definite frames :=
    .binary (.binary .literal fun _ => .literal) fun _ => .literal
  have r_definite : ∀ reached,
      (Expr.nested .all 2 (.input 0 (.sequence .boolean)) (.unary .not (.input 2 .boolean))).Calls
        frames (.unary .not (.input 2 .boolean)) reached →
      (Expr.unary .not (.input 2 .boolean)).Definite reached := by
    intro reached calls
    cases calls with
    | predicate tests =>
        obtain ⟨element, mem, rfl⟩ := tests.eq_append (fun _ => rfl) rfl rfl
        refine .unary (.input fun null => ?_)
        have mem : element ∈ [.boolean false, .boolean true] := mem
        have null : element = .null := null
        simp [null] at mem
  obtain ⟨counts, laws⟩ := boolean_laws p rfl q rfl s rfl r rfl fits
  obtain ⟨_, exchanged, questions⟩ := laws fit
  exact ⟨now, scope, frames, _, Q, _, R, rfl, rfl, fit, ⟨p, p_definite⟩, ⟨q, q_definite⟩,
    ⟨s, by decide⟩, ⟨r, r_definite⟩, (counts (by decide)).1, (exchanged p_definite q_definite).1,
    questions r_definite⟩

end RecordQuery
