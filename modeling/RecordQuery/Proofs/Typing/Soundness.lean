import RecordQuery.Proofs.Scoping.Reach
import RecordQuery.Proofs.Typing.Reader

/-!
# Type soundness

The evaluation of a query never leaves the types that the parser gave to its parts.  Over frames
that hold null or a value of the right type for each input (`Frames.Fit`), a typed tree over honest
types has null or a value of exactly its type (`Expr.Typed.admits`).  A question puts an element of
its source into a frame, and elements of an admitted sequence are admitted, so the frames fit
wherever an evaluation comes to (`Frames.Fit.inside`).

`eval_admits` states this for queries whose input type was put together from registered members.
It promises nothing less for readers that are handed records they do not know.
-/

set_option autoImplicit false

namespace RecordQuery

variable {ρ : Type}

/-! ## Types of parts -/

theorem ValueType.Scalar.honest {type : ValueType ρ} (scalar : type.Scalar) : type.Honest := by
  cases scalar <;> constructor

namespace ValueType

/-- A member of an honest type is honest, and so is its reader. -/
theorem Honest.member {owner : ValueType ρ} {member : Member ρ} (honest : owner.Honest)
    (listed : member ∈ owner.members) :
    member.type.Honest ∧ ∀ record, member.type.Admits (member.read record) := by
  cases honest with
  | record types readers => exact ⟨types member listed, readers member listed⟩
  | _ => cases listed

theorem Honest.element {element : ValueType ρ} (honest : (ValueType.sequence element).Honest) :
    element.Honest := by
  cases honest with
  | sequence element_honest => exact element_honest

/-- What is read from null or from a record of the owner is of the type of the member. -/
theorem Honest.admits_readFrom {owner : ValueType ρ} {member : Member ρ} {base : Value ρ}
    (honest : owner.Honest) (listed : member ∈ owner.members) (admits : owner.Admits base) :
    member.type.Admits (member.readFrom base) := by
  cases admits with
  | record => exact (honest.member listed).2 _
  | _ => exact .null

end ValueType

/-! ## Frames that fit -/

/-- There is a frame for each type, and it holds null or a value of the type. -/
structure Frames.Fit (types : List (ValueType ρ)) (frames : Frames ρ) : Prop where
  length : frames.inputs.length = types.length
  honest : ∀ type ∈ types, type.Honest
  admits : ∀ (depth : Nat) (type : ValueType ρ), types[depth]? = some type →
    type.Admits (frames.input depth)

namespace Frames.Fit

variable {types : List (ValueType ρ)} {frames : Frames ρ}

theorem empty : Frames.Fit ([] : List (ValueType ρ)) ⟨[]⟩ where
  length := rfl
  honest _ mem := absurd mem List.not_mem_nil
  admits _ _ bound := by cases bound

theorem enter {element : ValueType ρ} {value : Value ρ} (fit : Frames.Fit types frames)
    (honest : element.Honest) (admits : element.Admits value) :
    Frames.Fit (types ++ [element]) ⟨frames.inputs ++ [value]⟩ where
  length := Frames.fits_append fit.length
  honest := List.forall_mem_append.2 ⟨fit.honest, List.forall_mem_singleton.2 honest⟩
  admits depth found bound := by
    rw [Frames.input]
    rcases Nat.lt_or_ge depth types.length with below | above
    · rw [List.getElem?_append_left below] at bound
      rw [List.getElem?_append_left (fit.length ▸ below)]
      exact fit.admits depth found bound
    · rw [List.getElem?_append_right above] at bound
      rw [List.getElem?_append_right (fit.length ▸ above), fit.length]
      obtain ⟨last, same⟩ := List.getElem?_eq_some_iff.1 bound
      have top : depth - types.length = 0 := Nat.lt_one_iff.1 last
      simp only [top, List.getElem_cons_zero] at same
      simpa [top, ← same] using admits

/-- The frames of a query whose input is null or of the type of the query. -/
theorem start {type : ValueType ρ} {input : Value ρ} (honest : type.Honest)
    (admits : type.Admits input) : Frames.Fit [type] (.start input) :=
  empty.enter honest admits

end Frames.Fit

/-! ## Values of typed trees -/

namespace Expr

variable {types : List (ValueType ρ)} {expr : Expr ρ}

/-- Over honest types the types of all parts are honest. -/
theorem Typed.honest (typed : expr.Typed types) (honest : ∀ type ∈ types, type.Honest) :
    expr.type.Honest := by
  induction typed with
  | literal => exact (Literal.scalar_type _).honest
  | input bound => exact honest _ (List.mem_of_getElem? bound)
  | member _ listed ih => exact ((ih honest).member listed).1
  | unary _ _ ih => exact ih honest
  | binary _ _ gives => exact (BinaryOp.scalar_of_resultType? gives).honest
  | pattern => exact .boolean
  | call => exact (Function.scalar_resultType _).honest
  | nested => exact (Quantifier.scalar_resultType _).honest

variable [BEq ρ]

/-- Over frames that fit a typed tree has null or a value of its type. -/
theorem Typed.admits (typed : expr.Typed types) {frames : Frames ρ} (fit : frames.Fit types) :
    expr.type.Admits (expr.valueIn frames.environment) := by
  induction typed with
  | @literal _ value => exact value.admits_toValue
  | @input types depth type bound =>
      obtain ⟨inside, _⟩ := List.getElem?_eq_some_iff.1 bound
      rw [valueIn, ← Frames.input_eq_of_lt (fit.length ▸ inside)]
      exact fit.admits depth type bound
  | member base_typed listed ih =>
      exact (base_typed.honest fit.honest).admits_readFrom listed (ih fit)
  | unary _ takes ih => exact UnaryOp.admits_apply takes (ih fit)
  | binary _ _ gives ihLeft ihRight => exact BinaryOp.admits_apply gives (ihLeft fit) (ihRight fit)
  | @pattern _ _ regex? => cases regex? <;> exact .boolean
  | call => exact Function.admits_apply
  | nested => exact Quantifier.admits_answer

end Expr

/-- One more frame with an element of a source fits too. -/
theorem Frames.Fit.inside [BEq ρ] {types inner : List (ValueType ρ)} {frames reached : Frames ρ}
    (fit : frames.Fit types) (inside : Frames.Inside types frames inner reached) :
    reached.Fit inner := by
  cases inside with
  | same => exact fit
  | @entered source element value source_typed sequence mem =>
      have honest := source_typed.honest fit.honest
      have admits := source_typed.admits fit
      rw [sequence] at honest admits
      exact fit.enter honest.element (admits.items mem)

/-! ## Queries -/

/-- A query over null or a value of its input type has null or a value of its type at every part
that is evaluated, and null or a boolean as a whole.  The input type is put together from
registered members; these, and registered schemas, give null or a value of their type on every
record and every input. -/
theorem eval_admits [BEq ρ] [HasDocuments ρ] {now : DateTime} {type : ValueType ρ}
    {source : String} {expr : Expr ρ} {input : Value ρ} (registered : type.Registered)
    (parses : parse now type source = .ok expr) (admits : type.Admits input) :
    (∀ (node : Expr ρ) (frames : Frames ρ), expr.Reaches (.start input) node frames →
      node.type.Admits (node.eval.run frames).1) ∧
    (expr.valueOn input = .null ∨ ∃ truth, expr.valueOn input = .boolean truth) ∧
    (∀ member : Member ρ, Field.Registered member →
      ∀ record, member.type.Admits (member.read record)) ∧
    ∀ (α : Type) (schema : Schema ρ α), schema.Registered →
      ∀ host, schema.type.Admits (schema.lift host) := by
  obtain ⟨typed, boolean⟩ := typed_of_parse parses
  have fit : Frames.Fit [type] (.start input) := .start registered.honest admits
  have everywhere : ∀ (node : Expr ρ) (frames : Frames ρ),
      expr.Reaches (.start input) node frames → node.type.Admits (node.eval.run frames).1 := by
    intro node frames reaches
    obtain ⟨inner, node_typed, kept⟩ :=
      reaches.keeps Frames.Fit.length Frames.Fit.inside typed fit
    rw [node_typed.runsIn frames kept.length]
    exact node_typed.admits kept
  refine ⟨everywhere, ?_, fun _ member => member.honest.2, fun _ _ schema => schema.honest.2⟩
  have root := everywhere expr (.start input) .start
  rw [boolean] at root
  exact root.eq_null_or_boolean

theorem eval_admits_foreign_document :
    ∃ (now : DateTime) (type : ValueType Json) (expr : Expr Json) (input : Value Json),
      type = .record "Document" [Document.member "age" .integer] ∧ type.Registered ∧
      parse now type "age > 3" = .ok expr ∧ input = .record (.object [("age", .string "old")]) ∧
      type.Admits input ∧
      (expr.valueOn input = .null ∨ ∃ truth, expr.valueOn input = .boolean truth) := by
  have registered : ValueType.Registered
      (.record "Document" [Document.member "age" .integer] : ValueType Json) :=
    .record (List.forall_mem_singleton.2 (.document .integer))
  have parses : parse ⟨⟨0, by decide⟩, .midnight⟩
      (.record "Document" [Document.member "age" .integer] : ValueType Json) "age > 3" =
      .ok (.binary .greater .boolean
        (.member (.input 0 (.record "Document" [Document.member "age" .integer]))
          (Document.member "age" .integer))
        (.literal (.integer 3))) := by cbv
  exact ⟨_, _, _, _, rfl, registered, parses, rfl, .record,
    (eval_admits registered parses .record).2.1⟩

end RecordQuery
