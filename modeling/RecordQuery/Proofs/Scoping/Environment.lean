import RecordQuery.Proofs.Typing.Tree
import RecordQuery.Query.Evaluation

/-!
# Lexical scoping

The value of an expression in an environment: the list of the current elements, the innermost
first and the input of the query last.  Nothing is ever changed.  A question extends the
environment by each element in turn, and its answer is said by what it means: whether an element
passes, whether all do, how many do (`Quantifier.answer`).

The evaluator has no environment but frames that are entered, overwritten and dropped.  Both give
the same value, and the frames are what they were when a value was found (`Expr.Typed.runsIn`).
The proof is by induction on typed trees.  What carries it through a question is that, before
each element is tested and after it was, the frames below the depth of the question are those
that the question was asked in (`Quantifier.run_ask`).
-/

set_option autoImplicit false

namespace RecordQuery

variable {ρ : Type}

/-! ## Values in an environment -/

/-- What a question about elements means, where `passes` tells the elements that fit. -/
def Quantifier.answer (quantifier : Quantifier) (passes : Value ρ → Bool)
    (elements : List (Value ρ)) : Value ρ :=
  match quantifier with
  | any => .boolean (elements.any passes)
  | all => .boolean (elements.all passes)
  | count => .integer (Int64.ofNat (elements.countP passes))

namespace Expr

mutual

/-- The value of an expression in an environment.  In an environment of `d + 1` values the input
at depth `d` is the first one, and every depth less is one step further out. -/
def valueIn [BEq ρ] (environment : List (Value ρ)) : Expr ρ → Value ρ
  | .literal value => value.toValue
  | .input depth _ => environment[environment.length - 1 - depth]?.getD .null
  | .member base read => read.readFrom (valueIn environment base)
  | .unary op operand => op.apply (valueIn environment operand)
  | .binary op _ left right => op.apply (valueIn environment left) (valueIn environment right)
  | .pattern op (some regex) left _ =>
      .boolean (op.applyRegex (valueIn environment left).string? regex)
  | .pattern op none left right =>
      .boolean (op.apply (valueIn environment left).string? (valueIn environment right).string?)
  | .call function arguments =>
      .orNull id (function.apply (valuesIn environment arguments)).toOption
  | .nested quantifier _ source predicate =>
      quantifier.answer (fun element => (valueIn (element :: environment) predicate).isTrue)
        (valueIn environment source).items

/-- The values of expressions in an environment. -/
def valuesIn [BEq ρ] (environment : List (Value ρ)) : List (Expr ρ) → List (Value ρ)
  | [] => []
  | expr :: exprs => valueIn environment expr :: valuesIn environment exprs

end

theorem valuesIn_eq_map [BEq ρ] (environment : List (Value ρ)) (exprs : List (Expr ρ)) :
    valuesIn environment exprs = exprs.map (valueIn environment) := by
  induction exprs with
  | nil => rfl
  | cons expr exprs ih => rw [valuesIn, ih, List.map_cons]

end Expr

/-! ## Questions over frames -/

/-- A step that finds a value hands it on, with the frames that it leaves. -/
theorem Evaluation.run_bind {α β : Type} {first : Evaluation ρ α} {next : α → Evaluation ρ β}
    {frames after : Frames ρ} {value : α} (runs : first.run frames = (value, after)) :
    (first >>= next).run frames = (next value).run after := by
  rw [StateT.run_bind, runs]
  rfl

namespace Quantifier

/-- The answer of a question where some elements have passed already. -/
def answerFrom (quantifier : Quantifier) (passes : Value ρ → Bool) (counted : Nat)
    (elements : List (Value ρ)) : Value ρ :=
  match quantifier with
  | any => .boolean (elements.any passes)
  | all => .boolean (elements.all passes)
  | count => .integer (Int64.ofNat (counted + elements.countP passes))

theorem answerFrom_zero (quantifier : Quantifier) (passes : Value ρ → Bool)
    (elements : List (Value ρ)) :
    quantifier.answerFrom passes 0 elements = quantifier.answer passes elements := by
  cases quantifier with
  | any => rfl
  | all => rfl
  | count => rw [answerFrom, answer, Nat.zero_add]

/-- The answer is settled by the first element that passes, or the first one that does not. -/
def settles : Quantifier → Bool → Bool
  | any, passed => passed
  | all, passed => !passed
  | count, _ => false

theorem answerFrom_cons {quantifier : Quantifier} {passes : Value ρ → Bool} {counted : Nat}
    {element : Value ρ} {elements : List (Value ρ)} :
    quantifier.answerFrom passes counted (element :: elements) =
      if quantifier.settles (passes element) then .boolean (passes element)
      else quantifier.answerFrom passes
        (counted + if quantifier = count ∧ passes element then 1 else 0) elements := by
  cases quantifier with
  | any => cases passed : passes element <;> simp [answerFrom, settles, passed]
  | all => cases passed : passes element <;> simp [answerFrom, settles, passed]
  | count =>
      cases passed : passes element with
      | true => simp [answerFrom, settles, passed, Nat.add_assoc, Nat.add_comm 1]
      | false => simp [answerFrom, settles, passed]

section Run

variable (quantifier : Quantifier) {depth : Nat} {test : Evaluation ρ Bool}

/-- One step of a question: the first element is tested in the frame of the question. -/
theorem run_ask_cons {counted : Nat} {element : Value ρ} {elements : List (Value ρ)}
    {frames after : Frames ρ} {passed : Bool}
    (tests : test.run (frames.enter depth element) = (passed, after)) :
    (quantifier.ask depth test counted (element :: elements)).run frames =
      if quantifier.settles passed then (.boolean passed, after)
      else (quantifier.ask depth test
        (counted + if quantifier = count ∧ passed then 1 else 0) elements).run after := by
  have entered : (modify (·.enter depth element) : Evaluation ρ PUnit).run frames =
      (⟨⟩, frames.enter depth element) := rfl
  rw [ask, Evaluation.run_bind entered, Evaluation.run_bind tests]
  cases quantifier with
  | any => cases passed <;> rfl
  | all => cases passed <;> rfl
  | count => cases passed <;> rfl

/-- A test that tells whether an element passes, and leaves the frames as they are, lets a
question find its answer.  The frames below the depth of the question stay. -/
theorem run_ask {passes : Value ρ → Bool} {below : List (Value ρ)}
    (tests : ∀ element, test.run ⟨below ++ [element]⟩ = (passes element, ⟨below ++ [element]⟩))
    (length : below.length = depth) (elements : List (Value ρ)) :
    ∀ (counted : Nat) (frames : Frames ρ), frames.inputs.take depth = below →
      ∃ after : Frames ρ, after.inputs.take depth = below ∧
        (quantifier.ask depth test counted elements).run frames =
          (quantifier.answerFrom passes counted elements, after) := by
  induction elements with
  | nil =>
      intro counted frames kept
      refine ⟨frames, kept, ?_⟩
      cases quantifier with
      | any => rfl
      | all => rfl
      | count => rfl
  | cons element elements ih =>
      intro counted frames kept
      have entered : frames.enter depth element = ⟨below ++ [element]⟩ := by
        rw [Frames.enter, kept]
      have stays : (⟨below ++ [element]⟩ : Frames ρ).inputs.take depth = below := by
        rw [← length]
        exact List.take_left
      have tested : test.run (frames.enter depth element) =
          (passes element, ⟨below ++ [element]⟩) := by rw [entered, tests]
      rw [run_ask_cons quantifier tested, answerFrom_cons]
      split
      · exact ⟨_, stays, rfl⟩
      · exact ih _ _ stays

end Run

end Quantifier

/-! ## Evaluation over frames -/

namespace Frames

/-- The current elements, the innermost first. -/
def environment (frames : Frames ρ) : List (Value ρ) := frames.inputs.reverse

theorem input_eq_of_lt {frames : Frames ρ} {depth : Nat} (bound : depth < frames.inputs.length) :
    frames.input depth =
      frames.environment[frames.environment.length - 1 - depth]?.getD .null := by
  rw [input, environment, List.getElem?_reverse (by simp only [List.length_reverse]; omega)]
  congr 2
  simp only [List.length_reverse]
  omega

theorem fits_append {types : List (ValueType ρ)} {frames : Frames ρ} {element : ValueType ρ}
    {value : Value ρ} (fits : frames.inputs.length = types.length) :
    (frames.inputs ++ [value]).length = (types ++ [element]).length := by
  rw [List.length_append, List.length_append, fits]
  rfl

end Frames

namespace Expr

variable [BEq ρ] {types : List (ValueType ρ)}

/-- A value is found and the frames are left as they were. -/
def RunsIn (frames : Frames ρ) (expr : Expr ρ) : Prop :=
  expr.eval.run frames = (expr.valueIn frames.environment, frames)

theorem run_evalAll {frames : Frames ρ} {exprs : List (Expr ρ)}
    (runs : ∀ expr ∈ exprs, expr.RunsIn frames) :
    (evalAll exprs).run frames = (valuesIn frames.environment exprs, frames) := by
  induction exprs with
  | nil => rfl
  | cons expr exprs ih =>
      obtain ⟨first, others⟩ := List.forall_mem_cons.1 runs
      rw [evalAll, Evaluation.run_bind first, Evaluation.run_bind (ih others)]
      rfl

theorem RunsIn.binary {frames : Frames ρ} {op : BinaryOp} {type : ValueType ρ}
    {left right : Expr ρ} (left_runs : left.RunsIn frames) (right_runs : right.RunsIn frames) :
    (Expr.binary op type left right).RunsIn frames := by
  by_cases conjunction : op = .and
  · subst conjunction
    rw [RunsIn, eval, Evaluation.run_bind left_runs, valueIn, BinaryOp.apply]
    cases (left.valueIn frames.environment).isTrue with
    | true => exact Evaluation.run_bind right_runs
    | false => rfl
  by_cases disjunction : op = .or
  · subst disjunction
    rw [RunsIn, eval, Evaluation.run_bind left_runs, valueIn, BinaryOp.apply]
    cases (left.valueIn frames.environment).isTrue with
    | true => rfl
    | false => exact Evaluation.run_bind right_runs
  rw [RunsIn, eval, Evaluation.run_bind left_runs, Evaluation.run_bind right_runs, valueIn]
  · rfl
  · exact fun h => conjunction h
  · exact fun h => disjunction h

theorem RunsIn.pattern {frames : Frames ρ} {op : PatternOp} {regex? : Option Regex.Pattern}
    {left right : Expr ρ} (left_runs : left.RunsIn frames) (right_runs : right.RunsIn frames) :
    (Expr.pattern op regex? left right).RunsIn frames := by
  cases regex? with
  | some regex =>
      rw [RunsIn, eval, Evaluation.run_bind left_runs, valueIn]
      rfl
  | none =>
      rw [RunsIn, eval, Evaluation.run_bind left_runs, Evaluation.run_bind right_runs, valueIn]
      rfl

/-- The test of an element by an expression. -/
theorem RunsIn.test {frames : Frames ρ} {predicate : Expr ρ} {element : Value ρ}
    (runs : predicate.RunsIn ⟨frames.inputs ++ [element]⟩) :
    (Value.isTrue <$> predicate.eval).run ⟨frames.inputs ++ [element]⟩ =
      ((predicate.valueIn (element :: frames.environment)).isTrue,
        ⟨frames.inputs ++ [element]⟩) := by
  rw [StateT.run_map, runs, Frames.environment, List.reverse_append]
  rfl

theorem RunsIn.nested {frames : Frames ρ} {quantifier : Quantifier} {source predicate : Expr ρ}
    (source_runs : source.RunsIn frames)
    (predicate_runs : ∀ element, predicate.RunsIn ⟨frames.inputs ++ [element]⟩) :
    (Expr.nested quantifier frames.inputs.length source predicate).RunsIn frames := by
  obtain ⟨after, kept, asked⟩ := quantifier.run_ask
    (fun element => (predicate_runs element).test) rfl
    (source.valueIn frames.environment).items 0 frames List.take_length
  rw [RunsIn, eval, Evaluation.run_bind source_runs, Evaluation.run_bind asked, valueIn,
    Quantifier.answerFrom_zero]
  exact Prod.ext rfl (congrArg Frames.mk kept)

/-- Over frames for the types of its inputs an expression has the value that it has in the
environment of these frames, and the frames stay as they are. -/
theorem Typed.runsIn {expr : Expr ρ} (typed : expr.Typed types) :
    ∀ frames : Frames ρ, frames.inputs.length = types.length → expr.RunsIn frames := by
  induction typed with
  | literal => exact fun _ _ => rfl
  | @input types depth type bound =>
      intro frames fits
      obtain ⟨inside, _⟩ := List.getElem?_eq_some_iff.1 bound
      exact Prod.ext (Frames.input_eq_of_lt (fits ▸ inside)) rfl
  | member _ _ ih =>
      intro frames fits
      rw [RunsIn, eval, Evaluation.run_bind (ih frames fits), valueIn]
      rfl
  | unary _ _ ih =>
      intro frames fits
      rw [RunsIn, eval, Evaluation.run_bind (ih frames fits), valueIn]
      rfl
  | binary _ _ _ ihLeft ihRight =>
      exact fun frames fits => (ihLeft frames fits).binary (ihRight frames fits)
  | pattern _ _ _ _ _ ihLeft ihRight =>
      exact fun frames fits => (ihLeft frames fits).pattern (ihRight frames fits)
  | call _ _ _ _ ih =>
      intro frames fits
      have all := run_evalAll fun argument mem => ih argument mem frames fits
      rw [RunsIn, eval, Evaluation.run_bind all, valueIn]
      rfl
  | nested _ _ _ _ ihSource ihPredicate =>
      intro frames fits
      rw [← fits]
      exact (ihSource frames fits).nested fun _ => ihPredicate _ (Frames.fits_append fits)

end Expr

end RecordQuery
