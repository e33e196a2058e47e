import RecordQuery.Proofs.Scoping.Environment

/-!
# What an evaluation reaches

The evaluation of an expression evaluates parts of it, over frames that the parts before may
have changed.  `Expr.Calls` lists these calls as the evaluator makes them: the right operand of a
logical operator only where the left one leaves the answer open, the pattern of a comparison only
where it was not read before, the predicate of a question for one element after another until
the answer is settled (`Quantifier.Tests`).  `Expr.Reaches` are all calls of a whole evaluation.

In a typed tree a part is called over the frames of the whole, or over one more frame which holds
an element of a source (`Expr.Typed.inside`).  So a property of types and frames that survives
one more frame holds wherever an evaluation comes to (`Expr.Reaches.keeps`).
-/

set_option autoImplicit false

namespace RecordQuery

variable {ρ : Type}

/-! ## Calls -/

/-- The frames over which a question tests its elements, from some frames on. -/
inductive Quantifier.Tests (quantifier : Quantifier) (depth : Nat) (test : Evaluation ρ Bool) :
    List (Value ρ) → Frames ρ → Frames ρ → Prop
  | here {element : Value ρ} {elements : List (Value ρ)} {frames : Frames ρ} :
      Tests quantifier depth test (element :: elements) frames (frames.enter depth element)
  | later {element : Value ρ} {elements : List (Value ρ)} {frames after reached : Frames ρ}
      {passed : Bool} (tested : test.run (frames.enter depth element) = (passed, after))
      (unsettled : quantifier.settles passed = false)
      (more : Tests quantifier depth test elements after reached) :
      Tests quantifier depth test (element :: elements) frames reached

/-- The evaluation of an expression over some frames evaluates a part of it over others. -/
inductive Expr.Calls [BEq ρ] : Expr ρ → Frames ρ → Expr ρ → Frames ρ → Prop
  | member {base : Expr ρ} {read : Member ρ} {frames : Frames ρ} :
      Calls (.member base read) frames base frames
  | unary {op : UnaryOp} {operand : Expr ρ} {frames : Frames ρ} :
      Calls (.unary op operand) frames operand frames
  | left {op : BinaryOp} {type : ValueType ρ} {left right : Expr ρ} {frames : Frames ρ} :
      Calls (.binary op type left right) frames left frames
  | conjunct {type : ValueType ρ} {left right : Expr ρ} {frames : Frames ρ}
      (holds : (left.eval.run frames).1.isTrue = true) :
      Calls (.binary .and type left right) frames right (left.eval.run frames).2
  | disjunct {type : ValueType ρ} {left right : Expr ρ} {frames : Frames ρ}
      (fails : (left.eval.run frames).1.isTrue = false) :
      Calls (.binary .or type left right) frames right (left.eval.run frames).2
  | right {op : BinaryOp} {type : ValueType ρ} {left right : Expr ρ} {frames : Frames ρ}
      (strict : op ≠ .and ∧ op ≠ .or) :
      Calls (.binary op type left right) frames right (left.eval.run frames).2
  | text {op : PatternOp} {regex? : Option Regex.Pattern} {left right : Expr ρ}
      {frames : Frames ρ} : Calls (.pattern op regex? left right) frames left frames
  | written {op : PatternOp} {left right : Expr ρ} {frames : Frames ρ} :
      Calls (.pattern op none left right) frames right (left.eval.run frames).2
  | argument {function : Function} {before after : List (Expr ρ)} {argument : Expr ρ}
      {frames : Frames ρ} :
      Calls (.call function (before ++ argument :: after)) frames argument
        ((evalAll before).run frames).2
  | source {quantifier : Quantifier} {depth : Nat} {source predicate : Expr ρ}
      {frames : Frames ρ} : Calls (.nested quantifier depth source predicate) frames source frames
  | predicate {quantifier : Quantifier} {depth : Nat} {source predicate : Expr ρ}
      {frames reached : Frames ρ}
      (tests : quantifier.Tests depth (Value.isTrue <$> predicate.eval)
        (source.eval.run frames).1.items (source.eval.run frames).2 reached) :
      Calls (.nested quantifier depth source predicate) frames predicate reached

/-- The evaluation of an expression over some frames comes to a part of it over others. -/
inductive Expr.Reaches [BEq ρ] (expr : Expr ρ) (frames : Frames ρ) : Expr ρ → Frames ρ → Prop
  | start : Reaches expr frames expr frames
  | call {node next : Expr ρ} {reached after : Frames ρ} (met : Reaches expr frames node reached)
      (calls : Calls node reached next after) : Reaches expr frames next after

/-! ## Calls in typed trees -/

/-- The frames are those of the whole, or there is one more, which holds an element of a
source. -/
inductive Frames.Inside [BEq ρ] (types : List (ValueType ρ)) (frames : Frames ρ) :
    List (ValueType ρ) → Frames ρ → Prop
  | same : Inside types frames types frames
  | entered {source : Expr ρ} {element : ValueType ρ} {value : Value ρ}
      (source_typed : source.Typed types) (sequence : source.type = .sequence element)
      (mem : value ∈ (source.valueIn frames.environment).items) :
      Inside types frames (types ++ [element]) ⟨frames.inputs ++ [value]⟩

/-- A question whose test leaves the frames alone tests each element over the frames that it was
asked in and one more. -/
theorem Quantifier.Tests.eq_append {quantifier : Quantifier} {depth : Nat}
    {test : Evaluation ρ Bool} {below elements : List (Value ρ)} {frames reached : Frames ρ}
    (tests : quantifier.Tests depth test elements frames reached)
    (stays : ∀ element, (test.run ⟨below ++ [element]⟩).2 = ⟨below ++ [element]⟩)
    (length : below.length = depth) (kept : frames.inputs.take depth = below) :
    ∃ element ∈ elements, reached = ⟨below ++ [element]⟩ := by
  induction tests with
  | @here element elements frames =>
      exact ⟨element, List.mem_cons_self, by rw [Frames.enter, kept]⟩
  | @later element elements frames after reached passed tested unsettled more ih =>
      have entered : frames.enter depth element = ⟨below ++ [element]⟩ := by
        rw [Frames.enter, kept]
      have same : after = ⟨below ++ [element]⟩ := by
        rw [← stays element, ← entered, tested]
      obtain ⟨found, mem, at_⟩ := ih (by rw [same, ← length]; exact List.take_left)
      exact ⟨found, List.mem_cons_of_mem _ mem, at_⟩

namespace Expr

variable [BEq ρ] {types : List (ValueType ρ)} {expr node : Expr ρ} {frames reached : Frames ρ}

/-- A part of a typed tree is typed for the frames that it is called over. -/
theorem Calls.inside (calls : Calls expr frames node reached) (typed : expr.Typed types)
    (fits : frames.inputs.length = types.length) :
    ∃ inner, node.Typed inner ∧ Frames.Inside types frames inner reached := by
  have after_left : ∀ {left : Expr ρ}, left.Typed types → (left.eval.run frames).2 = frames :=
    fun left_typed => congrArg Prod.snd (left_typed.runsIn frames fits)
  cases calls with
  | member =>
      cases typed with
      | member base_typed => exact ⟨types, base_typed, .same⟩
  | unary =>
      cases typed with
      | unary operand_typed => exact ⟨types, operand_typed, .same⟩
  | left =>
      cases typed with
      | binary left_typed => exact ⟨types, left_typed, .same⟩
  | conjunct | disjunct | right =>
      cases typed with
      | binary left_typed right_typed =>
          rw [after_left left_typed]
          exact ⟨types, right_typed, .same⟩
  | text =>
      cases typed with
      | pattern left_typed => exact ⟨types, left_typed, .same⟩
  | written =>
      cases typed with
      | pattern left_typed right_typed =>
          rw [after_left left_typed]
          exact ⟨types, right_typed, .same⟩
  | @argument function before after argument =>
      cases typed with
      | call arguments_typed =>
          have first : (evalAll before).run frames = (valuesIn frames.environment before, frames) :=
            run_evalAll fun other mem =>
              (arguments_typed other (List.mem_append_left _ mem)).runsIn frames fits
          rw [first]
          exact ⟨types, arguments_typed _ (List.mem_append_right _ List.mem_cons_self), .same⟩
  | source =>
      cases typed with
      | nested source_typed => exact ⟨types, source_typed, .same⟩
  | predicate tests =>
      cases typed with
      | nested source_typed sequence node_typed =>
          rw [source_typed.runsIn frames fits] at tests
          have stays : ∀ value, ((Value.isTrue <$> node.eval).run ⟨frames.inputs ++ [value]⟩).2 =
              ⟨frames.inputs ++ [value]⟩ :=
            fun value => congrArg Prod.snd (node_typed.runsIn _ (Frames.fits_append fits)).test
          obtain ⟨value, mem, rfl⟩ :=
            tests.eq_append stays fits (by rw [← fits, List.take_length])
          exact ⟨_, node_typed, .entered source_typed sequence mem⟩

/-- What holds of the types and frames of a whole, and still holds with one more frame, holds
wherever the evaluation of a typed tree comes to. -/
theorem Reaches.keeps {Holds : List (ValueType ρ) → Frames ρ → Prop}
    (fits : ∀ {types : List (ValueType ρ)} {frames : Frames ρ}, Holds types frames →
      frames.inputs.length = types.length)
    (enters : ∀ {types inner : List (ValueType ρ)} {frames reached : Frames ρ},
      Holds types frames → Frames.Inside types frames inner reached → Holds inner reached)
    (reaches : Reaches expr frames node reached) (typed : expr.Typed types)
    (holds : Holds types frames) : ∃ inner, node.Typed inner ∧ Holds inner reached := by
  induction reaches with
  | start => exact ⟨types, typed, holds⟩
  | call _ calls ih =>
      obtain ⟨outer, node_typed, kept⟩ := ih
      obtain ⟨inner, next_typed, inside⟩ := calls.inside node_typed (fits kept)
      exact ⟨inner, next_typed, enters kept inside⟩

/-- Wherever the evaluation of a typed tree comes to, there is a frame for each type. -/
theorem Reaches.fits (reaches : Reaches expr frames node reached) (typed : expr.Typed types)
    (fits : frames.inputs.length = types.length) :
    ∃ inner, node.Typed inner ∧ reached.inputs.length = inner.length := by
  refine reaches.keeps (fun same => same) (fun same inside => ?_) typed fits
  cases inside with
  | same => exact same
  | entered => exact Frames.fits_append same

end Expr

end RecordQuery
