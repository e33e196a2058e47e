import RecordQuery.Proofs.Scoping.Stack
import RecordQuery.Proofs.Typing.Tree

/-!
# Recovery from errors

A parser with a stack of contexts answers like the parser without one, and a call leaves nothing on
the stack, however it ends.

In a scope the stack holds one context for each of the types, each in the place of its depth
(`Scope.contexts`).  A reader that begins with this stack ends with it, and has the result of the
reader that is handed the scope (`StackParser.expression_agrees` and its companions).  For a
question this holds because the reading of its block, which begins with one context more, ends with
one context more even if it fails: what is popped is what was pushed.  Hence between two calls there
is nothing but the root and the cursor, which is all that a fresh parser has.
-/

set_option autoImplicit false

namespace RecordQuery

variable {ρ α β : Type}

/-! ## The stack of a scope -/

/-- Every context is in the place that its depth says. -/
def Numbered (stack : List (Context ρ)) : Prop :=
  ∀ (place : Nat) (context : Context ρ), stack[place]? = some context → context.depth = place

namespace Scope

variable {scope : Scope ρ}

/-- A context for each type of a scope, from the outside in. -/
def contexts (scope : Scope ρ) : List (Context ρ) := scope.types.mapIdx Context.mk

theorem contexts_numbered : Numbered scope.contexts := by
  intro place context found
  rw [contexts, List.getElem?_mapIdx, Option.map_eq_some_iff] at found
  obtain ⟨type, -, rfl⟩ := found
  rfl

theorem getElem?_contexts {place : Nat} {type : ValueType ρ}
    (found : scope.types[place]? = some type) : scope.contexts[place]? = some ⟨place, type⟩ := by
  rw [contexts, List.getElem?_mapIdx, found, Option.map_some]

theorem length_contexts : scope.contexts.length = scope.depth + 1 := by
  rw [contexts, List.length_mapIdx, length_types]

theorem getLast?_contexts : scope.contexts.getLast? = some ⟨scope.depth, scope.current⟩ := by
  have here : (scope.current :: scope.outer)[0]? = some scope.current := rfl
  rw [List.getLast?_eq_getElem?, length_contexts]
  exact getElem?_contexts (getElem?_types here)

/-- In a question there is one context more. -/
theorem contexts_enter (element : ValueType ρ) :
    (scope.enter element).contexts = scope.contexts ++ [⟨scope.depth + 1, element⟩] := by
  rw [contexts, types_enter, List.mapIdx_append, length_types, List.mapIdx_singleton,
    Nat.zero_add, contexts]

end Scope

/-- The stack is that of a scope, and every stack so far was numbered. -/
structure Contexts.Fit (scope : Scope ρ) (contexts : Contexts ρ) : Prop where
  stack : contexts.stack = scope.contexts
  past : ∀ stack ∈ contexts.past, Numbered stack

namespace Contexts.Fit

variable {scope : Scope ρ} {contexts : Contexts ρ}

theorem root (type : ValueType ρ) : (Contexts.root type).Fit ⟨type, []⟩ where
  stack := rfl
  past := by
    have numbered := (⟨type, []⟩ : Scope ρ).contexts_numbered
    intro stack mem
    rw [Contexts.root, List.mem_singleton] at mem
    subst mem
    exact numbered

/-- The contexts fit the scope whose stack they are changed to. -/
theorem change {other : Scope ρ} (fits : contexts.Fit scope) {stack : List (Context ρ)}
    (same : stack = other.contexts) : (contexts.change stack).Fit other where
  stack := same
  past := by
    intro earlier mem
    obtain rfl | mem := List.mem_cons.1 mem
    · rw [same]
      exact other.contexts_numbered
    · exact fits.past earlier mem

theorem push (fits : contexts.Fit scope) (element : ValueType ρ) :
    (contexts.change (contexts.stack ++ [⟨scope.depth + 1, element⟩])).Fit
      (scope.enter element) :=
  fits.change (by rw [fits.stack, scope.contexts_enter])

theorem pop {element : ValueType ρ} (fits : contexts.Fit (scope.enter element)) :
    (contexts.change contexts.stack.dropLast).Fit scope :=
  fits.change (by rw [fits.stack, scope.contexts_enter, List.dropLast_concat])

end Contexts.Fit

/-! ## Readings and results -/

namespace StackReading

variable {scope : Scope ρ}

/-- With the contexts of a scope a reading has a result, and ends with the contexts of the scope
again. -/
def Agrees (scope : Scope ρ) (reading : StackReading ρ α) (result : Except Stuck α) : Prop :=
  ∀ contexts : Contexts ρ, contexts.Fit scope →
    ∃ left : Contexts ρ, left.Fit scope ∧
      reading.outcome contexts = (result.mapError .stuck, left)

theorem ofExcept_agrees (result : Except Stuck α) :
    Agrees scope (ofExcept result : StackReading ρ α) result :=
  fun contexts fits => ⟨contexts, fits, rfl⟩

theorem pure_agrees (value : α) : Agrees scope (pure value : StackReading ρ α) (pure value) :=
  fun contexts fits => ⟨contexts, fits, rfl⟩

theorem fail_agrees (stuck : Stuck) :
    Agrees scope (fail stuck : StackReading ρ α) (throw stuck) :=
  fun contexts fits => ⟨contexts, fits, rfl⟩

theorem outcome_bind (reading : StackReading ρ α) (next : α → StackReading ρ β)
    (contexts : Contexts ρ) :
    (reading >>= next).outcome contexts =
      match reading.outcome contexts with
      | (.ok value, left) => (next value).outcome left
      | (.error halt, left) => (.error halt, left) := by
  simp only [outcome, ExceptT.run_bind, StateT.run_bind, Id.run_bind]
  cases (reading.run.run contexts).run with
  | mk ended left => cases ended <;> rfl

/-- The reading inside ends as it does with the context on top, and the top of what it leaves is
dropped. -/
theorem outcome_nested (context : Context ρ) (reading : StackReading ρ α) (contexts : Contexts ρ) :
    (nested context reading).outcome contexts =
      match reading.outcome (contexts.change (contexts.stack ++ [context])) with
      | (ended, left) => (ended, left.change left.stack.dropLast) := by
  have lifted (contexts : Contexts ρ) :
      outcome (ExceptT.lift reading.run : StackReading ρ (Except Halt α)) contexts =
        (.ok (reading.outcome contexts).1, (reading.outcome contexts).2) := rfl
  have modified (change : Contexts ρ → Contexts ρ) (contexts : Contexts ρ) :
      outcome (modify change : StackReading ρ Unit) contexts = (.ok (), change contexts) := rfl
  simp only [nested, outcome_bind, lifted, modified]
  cases (reading.outcome (contexts.change (contexts.stack ++ [context]))).1 <;> rfl

theorem Agrees.bind {reading : StackReading ρ α} {result : Except Stuck α}
    {next : α → StackReading ρ β} {more : α → Except Stuck β}
    (agrees : Agrees scope reading result)
    (next_agrees : ∀ value, Agrees scope (next value) (more value)) :
    Agrees scope (reading >>= next) (result >>= more) := by
  intro contexts fits
  obtain ⟨middle, middle_fits, ends⟩ := agrees contexts fits
  rw [outcome_bind, ends]
  cases result with
  | error stuck => exact ⟨middle, middle_fits, rfl⟩
  | ok value => exact next_agrees value middle middle_fits

theorem Agrees.map {reading : StackReading ρ α} {result : Except Stuck α}
    (agrees : Agrees scope reading result) (f : α → β) :
    Agrees scope (do return f (← reading)) (result.map f) := by
  have mapped := agrees.bind fun value => pure_agrees (f value)
  cases result <;> exact mapped

/-- A context that is there is found, and nothing is changed. -/
theorem Agrees.found_bind {context : Context ρ} (place? : List (Context ρ) → Option (Context ρ))
    {next : Context ρ → StackReading ρ α} {result : Except Stuck α}
    (there : place? scope.contexts = some context) (agrees : Agrees scope (next context) result) :
    Agrees scope ((do found (place? (← get).stack)) >>= next) result := by
  intro contexts fits
  have finds : (do found (place? (← get).stack) : StackReading ρ (Context ρ)).outcome contexts =
      (.ok context, contexts) := by
    change (found (place? contexts.stack)).outcome contexts = _
    rw [fits.stack, there]
    rfl
  rw [outcome_bind, finds]
  exact agrees contexts fits

/-- The innermost context is that of the innermost input. -/
theorem Agrees.top_bind {next : Context ρ → StackReading ρ α} {result : Except Stuck α}
    (agrees : Agrees scope (next ⟨scope.depth, scope.current⟩) result) :
    Agrees scope (top >>= next) result :=
  agrees.found_bind List.getLast? scope.getLast?_contexts

/-- There is a context in the place of every type of the scope. -/
theorem Agrees.inPlace_bind {place : Nat} {type : ValueType ρ}
    {next : Context ρ → StackReading ρ α} {result : Except Stuck α}
    (there : scope.types[place]? = some type)
    (agrees : Agrees scope (next ⟨place, type⟩) result) :
    Agrees scope (inPlace place >>= next) result :=
  agrees.found_bind (fun stack => stack[place]?) (Scope.getElem?_contexts there)

/-- A reading with the context of a question on top leaves the stack as it was before. -/
theorem Agrees.nested {element : ValueType ρ} {reading : StackReading ρ α}
    {result : Except Stuck α} (agrees : Agrees (scope.enter element) reading result) :
    Agrees scope (nested ⟨scope.depth + 1, element⟩ reading) result := by
  intro contexts fits
  obtain ⟨inside, inside_fits, ends⟩ := agrees _ (fits.push element)
  exact ⟨_, inside_fits.pop, by rw [outcome_nested, ends]⟩

end StackReading

/-! ## The readers agree

By recursion on the text that is left, as in the readers.  Only a question changes the stack. -/

namespace StackParser

open Cursor StackReading

variable {now : DateTime} {scope : Scope ρ}

/-- The input of a run is the context so many places below the top, or there are too few. -/
theorem input_agrees (token : Token) (cursor next : Cursor)
    (shorter : next.rest.length < cursor.rest.length) :
    Agrees scope
      (do
        let levels := token.lexeme.toList.length - 1
        let context ← top
        if context.depth < levels then
          fail (next.blame token (.noSuchInput token.lexeme levels context.depth))
        else
          let target ← inPlace (context.depth - levels)
          return (⟨.input target.depth target.type, next, shorter⟩ : Later cursor (Expr ρ)))
      (do return ⟨← next.settle token (scope.inputOf token.lexeme), next, shorter⟩) := by
  refine Agrees.top_bind ?_
  unfold Scope.inputOf
  simp only
  split
  · next tooFew =>
    split
    · next type found =>
      have inside := (List.getElem?_eq_some_iff.1 found).1
      simp only [List.length_cons, Scope.depth] at inside tooFew
      omega
    · exact fail_agrees _
  · next enough =>
    split
    · next type found => exact Agrees.inPlace_bind (scope.getElem?_types found) (pure_agrees _)
    · next missing =>
      have outside := List.getElem?_eq_none_iff.1 missing
      simp only [List.length_cons, Scope.depth] at outside enough
      omega

mutual

theorem expression_agrees {scope : Scope ρ} (floor : Int) (cursor : Cursor) :
    Agrees scope (expression now floor cursor) (Parser.expression now scope floor cursor) := by
  rw [expression, Parser.expression]
  refine (primary_agrees cursor).bind fun ⟨first, next, shorter⟩ => ?_
  refine (ofExcept_agrees _).bind fun ⟨left, next', no_longer⟩ => ?_
  refine (continuation_agrees floor left next').bind fun ⟨whole, next'', no_longer'⟩ => ?_
  exact pure_agrees _
termination_by 3 * cursor.rest.length + 1
decreasing_by all_goals omega

theorem primary_agrees {scope : Scope ρ} (cursor : Cursor) :
    Agrees scope (primary now cursor) (Parser.primary now scope cursor) := by
  rw [primary, Parser.primary]
  refine (ofExcept_agrees _).bind fun ⟨⟨start, kind, lexeme, literal?⟩, next, shorter⟩ => ?_
  cases kind with
  | identifier =>
      refine (ofExcept_agrees _).bind fun peeked => ?_
      simp only
      split
      · refine (arguments_agrees next).bind fun ⟨arguments, next', shorter'⟩ => ?_
        exact (ofExcept_agrees _).bind fun whole => pure_agrees _
      · refine Agrees.top_bind ?_
        exact (ofExcept_agrees _).bind fun whole => pure_agrees _
  | now => exact pure_agrees _
  | input => exact input_agrees _ cursor next shorter
  | literal =>
      cases literal? with
      | some value => exact pure_agrees _
      | none => exact fail_agrees _
  | mark mark =>
      by_cases opens : mark = .parenthesisOpen
      · subst opens
        refine (expression_agrees _ next).bind fun ⟨inner, next', shorter'⟩ => ?_
        exact (ofExcept_agrees _).bind fun closing => pure_agrees _
      · simp only
        cases mark.unary? with
        | none => exact fail_agrees _
        | some op =>
            refine (expression_agrees _ next).bind fun ⟨operand, next', shorter'⟩ => ?_
            exact (ofExcept_agrees _).bind fun whole => pure_agrees _
  | _ => exact fail_agrees _
termination_by 3 * cursor.rest.length
decreasing_by all_goals omega

theorem arguments_agrees {scope : Scope ρ} (cursor : Cursor) :
    Agrees scope (arguments now cursor) (Parser.arguments now scope cursor) := by
  rw [arguments, Parser.arguments]
  refine (ofExcept_agrees _).bind fun ⟨opening, next, shorter⟩ => ?_
  refine (ofExcept_agrees _).bind fun closing? => ?_
  cases closing? with
  | some closing => exact pure_agrees _
  | none =>
      refine (listed_agrees next).bind fun ⟨values, next', shorter'⟩ => ?_
      exact (ofExcept_agrees _).bind fun closing => pure_agrees _
termination_by 3 * cursor.rest.length
decreasing_by omega

theorem listed_agrees {scope : Scope ρ} (cursor : Cursor) :
    Agrees scope (listed now cursor) (Parser.listed now scope cursor) := by
  rw [listed, Parser.listed]
  refine (expression_agrees _ cursor).bind fun ⟨value, next, shorter⟩ => ?_
  refine (ofExcept_agrees _).bind fun comma? => ?_
  cases comma? with
  | some comma =>
      obtain ⟨comma, next', shorter'⟩ := comma
      exact (listed_agrees next').bind fun more => pure_agrees _
  | none => exact pure_agrees _
termination_by 3 * cursor.rest.length + 2
decreasing_by all_goals omega

theorem continuation_agrees {scope : Scope ρ} (floor : Int) (left : Expr ρ) (cursor : Cursor) :
    Agrees scope (continuation now floor left cursor)
      (Parser.continuation now scope floor left cursor) := by
  rw [continuation, Parser.continuation]
  refine (ofExcept_agrees _).bind
    fun ⟨⟨start, kind, lexeme, literal?⟩, next, no_longer, shorter⟩ => ?_
  cases kind with
  | quantifier =>
      have shorter := shorter nofun
      refine (question_agrees left _ next).bind fun ⟨answered, next', shorter'⟩ => ?_
      exact (continuation_agrees floor answered next').bind fun whole => pure_agrees _
  | mark mark =>
      have shorter := shorter nofun
      simp only
      cases mark.binary? with
      | some entry =>
          simp only
          split
          · exact pure_agrees _
          · refine (expression_agrees entry.precedence next).bind fun ⟨right, next', shorter'⟩ => ?_
            refine (ofExcept_agrees _).bind fun joined => ?_
            exact (continuation_agrees floor joined next').bind fun whole => pure_agrees _
      | none => exact pure_agrees _
  | _ => exact pure_agrees _
termination_by 3 * cursor.rest.length
decreasing_by all_goals omega

theorem question_agrees {scope : Scope ρ} (source : Expr ρ) (keyword : Token) (cursor : Cursor) :
    Agrees scope (question now source keyword cursor)
      (Parser.question now scope source keyword cursor) := by
  rw [question, Parser.question]
  cases source.type.element? with
  | none => exact fail_agrees _
  | some element =>
      refine (ofExcept_agrees _).bind fun ⟨opening, next, shorter⟩ => ?_
      refine Agrees.top_bind ?_
      have inside : Agrees (scope.enter element) (expression now lowestPrecedence next) _ :=
        expression_agrees lowestPrecedence next
      refine inside.nested.bind fun ⟨predicate, next', shorter'⟩ => ?_
      simp only
      split
      · exact fail_agrees _
      · exact (ofExcept_agrees _).bind fun closing => pure_agrees _
termination_by 3 * cursor.rest.length
decreasing_by omega

end

theorem query_agrees (cursor : Cursor) :
    Agrees scope (query now cursor) (Parser.query now scope cursor) := by
  rw [query, Parser.query]
  refine (expression_agrees _ cursor).bind fun read => ?_
  refine (ofExcept_agrees _).bind fun ended => ?_
  simp only
  split
  · exact fail_agrees _
  · exact pure_agrees _

end StackParser

/-! ## Between calls -/

namespace Parser

theorem step_fixed (parser : Parser ρ) (result : Except Stuck (α × Cursor)) :
    (parser.step result).2.now = parser.now ∧ (parser.step result).2.type = parser.type := by
  cases result <;> exact ⟨rfl, rfl⟩

/-- Calls move the cursor and change nothing else. -/
theorem after_fixed (parser : Parser ρ) (calls : List Call) :
    (parser.after calls).now = parser.now ∧ (parser.after calls).type = parser.type := by
  induction calls generalizing parser with
  | nil => exact ⟨rfl, rfl⟩
  | cons call calls ih =>
      have first : (parser.call call).2.now = parser.now ∧
          (parser.call call).2.type = parser.type := by
        cases call <;> exact parser.step_fixed _
      obtain ⟨now, type⟩ := ih (parser.call call).2
      exact ⟨now.trans first.1, type.trans first.2⟩

end Parser

namespace StackParser

open StackReading

/-- The two parsers are at the same place, outside of all questions. -/
structure Stands (stacked : StackParser ρ) (parser : Parser ρ) : Prop where
  now : stacked.now = parser.now
  cursor : stacked.cursor = parser.cursor
  fits : stacked.contexts.Fit parser.scope

theorem fresh_stands (parser : Parser ρ) :
    Stands (fresh parser.now parser.type parser.cursor) parser :=
  ⟨rfl, rfl, Contexts.Fit.root parser.type⟩

namespace Stands

variable {stacked : StackParser ρ} {parser : Parser ρ}

/-- Both parsers have the same answer, and are at the same place after it. -/
theorem step (stands : Stands stacked parser) {reading : StackReading ρ (α × Cursor)}
    {result : Except Stuck (α × Cursor)} (agrees : Agrees parser.scope reading result) :
    (stacked.step reading).1 = some (parser.step result).1 ∧
      Stands (stacked.step reading).2 (parser.step result).2 := by
  obtain ⟨left, fits, ends⟩ := agrees stacked.contexts stands.fits
  unfold StackParser.step
  rw [ends]
  cases result with
  | ok read => exact ⟨rfl, stands.now, rfl, fits⟩
  | error stuck => exact ⟨rfl, stands.now, rfl, fits⟩

theorem call (stands : Stands stacked parser) (call : Parser.Call) :
    (stacked.call call).1 = some (parser.call call).1 ∧
      Stands (stacked.call call).2 (parser.call call).2 := by
  cases call with
  | expression floor =>
      refine stands.step ?_
      rw [stands.now, stands.cursor]
      exact (expression_agrees floor parser.cursor).map _
  | query =>
      refine stands.step ?_
      rw [stands.now, stands.cursor]
      exact (query_agrees parser.cursor).map _

theorem after (stands : Stands stacked parser) (calls : List Parser.Call) :
    Stands (stacked.after calls) (parser.after calls) := by
  induction calls generalizing stacked parser with
  | nil => exact stands
  | cons call calls ih => exact ih (stands.call call).2

end Stands

/-- A failed reading leaves no trace.  Whatever a parser was asked for before, and however that
ended, there is only the root on its stack, and the contexts of every stack that it had were in the
places that their depths say.  It answers every call like a fresh parser at its cursor, which is
also the answer of the parser without contexts. -/
theorem calls_leave_no_trace (now : DateTime) (type : ValueType ρ) (cursor : Cursor)
    (calls : List Parser.Call) :
    let reached := (fresh now type cursor).after calls
    let plain := (⟨now, type, cursor⟩ : Parser ρ).after calls
    reached.contexts.stack = [⟨0, type⟩] ∧ (∀ stack ∈ reached.contexts.past, Numbered stack) ∧
      ∀ call : Parser.Call,
        (reached.call call).1 = ((fresh now type reached.cursor).call call).1 ∧
        (reached.call call).2.cursor = ((fresh now type reached.cursor).call call).2.cursor ∧
        (reached.call call).1 = some (plain.call call).1 ∧
        (reached.call call).2.cursor = (plain.call call).2.cursor := by
  intro reached plain
  have stands : Stands reached plain := (fresh_stands ⟨now, type, cursor⟩).after calls
  obtain ⟨plain_now, plain_type⟩ : plain.now = now ∧ plain.type = type :=
    Parser.after_fixed ⟨now, type, cursor⟩ calls
  have root : plain.scope = ⟨type, []⟩ := by rw [Parser.scope, plain_type]
  have again : Stands (fresh now type reached.cursor) plain := by
    rw [← plain_now, ← plain_type, stands.cursor]
    exact fresh_stands plain
  refine ⟨by rw [stands.fits.stack, root]; rfl, stands.fits.past, fun call => ?_⟩
  obtain ⟨answer, after⟩ := stands.call call
  obtain ⟨answer', after'⟩ := again.call call
  exact ⟨answer.trans answer'.symm, after.cursor.trans after'.cursor.symm, answer, after.cursor⟩

-- Integers have no members, so the inner one of the two blocks ends with an error.
example :
    let type : ValueType Nat := .sequence (.sequence .integer)
    let parser := fresh ⟨⟨0, by decide⟩, .midnight⟩ type (Cursor.start "$ any \x7b $ any \x7b x")
    (parser.call .query).2.contexts.past.map (·.map (·.depth)) =
      [[0], [0, 1], [0, 1, 2], [0, 1], [0]] := by
  cbv

end StackParser

end RecordQuery
