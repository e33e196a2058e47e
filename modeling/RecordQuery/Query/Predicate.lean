import RecordQuery.Query.Evaluation
import RecordQuery.Query.Parser
import RecordQuery.Record.Schema

/-!
# Predicates

A query that was compiled for the inputs of a schema.  It holds of an input or it does not;
what is null does not hold.
-/

set_option autoImplicit false

namespace RecordQuery

/-- A compiled query. -/
structure Predicate (ρ α : Type) where
  expression : Expr ρ
  schema : Schema ρ α

namespace Predicate

variable {ρ α : Type}

/-- Compiles a query for the inputs of a schema; `now` is the moment of `@now`. -/
def compile (now : DateTime) (schema : Schema ρ α) (query : String) :
    Except CompileError (Predicate ρ α) :=
  (parse now schema.type query).map fun expression => ⟨expression, schema⟩

/-- The query holds of an input. -/
def holds [BEq ρ] (predicate : Predicate ρ α) (input : α) : Bool :=
  predicate.expression.holdsOn (predicate.schema.lift input)

/-- The inputs that the query holds of, in order. -/
def filter [BEq ρ] (predicate : Predicate ρ α) (inputs : List α) : List α :=
  inputs.filter predicate.holds

end Predicate

end RecordQuery
