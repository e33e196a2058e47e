import RecordQuery.Proofs.Typing.Soundness
import RecordQuery.Query.Predicate

/-!
# What a query depends on

A query over JSON documents sees no more of them than the keys that its tree names.  Two documents
that agree on these keys (`Json.AgreeOn`) may differ in every other key, at any depth; the query
holds of both or of neither (`holds_of_agreeOn`).

The proof runs the query on both documents side by side.  The values that come up on the two sides
are alike (`Value.Alike`): records are documents that agree, sequences are alike element by
element, and everything else is the same.  Alike values of a type without parts are equal, and
operators, patterns and calls take operands of such types only.  So nothing that a query computes
tells two alike records apart, although the equality on records and sequences could.
-/

set_option autoImplicit false

namespace RecordQuery

variable {ρ : Type}

/-! ## Documents that agree -/

/-- Two documents are objects at the same places, and each of the keys is missing in both or has
values that agree again; arrays agree element by element, and other values are equal. -/
inductive Json.AgreeOn (keys : List String) : Json → Json → Prop
  | object {left right : List (String × Json)}
      (named : ∀ key ∈ keys,
        Option.Rel (AgreeOn keys) ((Json.object left).get? key) ((Json.object right).get? key)) :
      AgreeOn keys (.object left) (.object right)
  | array {left right : List Json} (items : List.Forall₂ (AgreeOn keys) left right) :
      AgreeOn keys (.array left) (.array right)
  | same {document : Json} : AgreeOn keys document document

theorem Json.AgreeOn.get? {keys : List String} {left right : Json} {key : String}
    (agree : Json.AgreeOn keys left right) (named : key ∈ keys) :
    Option.Rel (Json.AgreeOn keys) (left.get? key) (right.get? key) := by
  cases agree with
  | object values => exact values key named
  | array => exact .none
  | same =>
      cases left.get? key with
      | none => exact .none
      | some value => exact .some .same

/-! ## Types of documents -/

/-- Every member in the type reads a document by the key that it is named for. -/
inductive ValueType.OfDocuments [HasDocuments ρ] : ValueType ρ → Prop
  | boolean : OfDocuments .boolean
  | integer : OfDocuments .integer
  | float : OfDocuments .float
  | string : OfDocuments .string
  | timeSpan : OfDocuments .timeSpan
  | dateTime : OfDocuments .dateTime
  | record {name : String} {members : List (Member ρ)}
      (types : ∀ member ∈ members, OfDocuments member.type)
      (readers : ∀ member ∈ members, member = Document.member member.name member.type) :
      OfDocuments (.record name members)
  | sequence {element : ValueType ρ} (element_documents : OfDocuments element) :
      OfDocuments (.sequence element)

namespace ValueType

variable [HasDocuments ρ] {type : ValueType ρ}

theorem Scalar.ofDocuments (scalar : type.Scalar) : type.OfDocuments := by
  cases scalar <;> constructor

theorem OfDocuments.registered (documents : type.OfDocuments) : type.Registered := by
  induction documents with
  | boolean => exact .boolean
  | integer => exact .integer
  | float => exact .float
  | string => exact .string
  | timeSpan => exact .timeSpan
  | dateTime => exact .dateTime
  | record types readers ih =>
      refine .record fun member mem => ?_
      rw [readers member mem]
      exact .document (ih member mem)
  | sequence _ ih => exact .sequence ih

theorem OfDocuments.honest (documents : type.OfDocuments) : type.Honest :=
  documents.registered.honest

/-- A member of a type of documents reads its own key, as a type of documents. -/
theorem OfDocuments.member {owner : ValueType ρ} {member : Member ρ}
    (documents : owner.OfDocuments) (listed : member ∈ owner.members) :
    member.type.OfDocuments ∧ member = Document.member member.name member.type := by
  cases documents with
  | record types readers => exact ⟨types member listed, readers member listed⟩
  | _ => cases listed

theorem OfDocuments.element {element : ValueType ρ}
    (documents : (ValueType.sequence element).OfDocuments) : element.OfDocuments := by
  cases documents with
  | sequence element_documents => exact element_documents

end ValueType

/-- The type inferred from documents is a type of documents. -/
theorem Document.ofDocuments_inferType [HasDocuments ρ] (name : String) (documents : List Json) :
    (Document.inferType name documents : ValueType ρ).OfDocuments := by
  fun_induction Document.inferType (ρ := ρ) name documents with
  | case1 | case2 => exact .string
  | case3 => exact .boolean
  | case4 | case5 => exact (Document.scalar_numberType _).ofDocuments
  | case6 => exact (Document.scalar_textType _).ofDocuments
  | case7 _ _ _ _ ih => exact .sequence ih
  | case8 _ _ _ _ ih =>
      refine .record ?_ ?_
      · intro member mem
        obtain ⟨key, _, rfl⟩ := List.mem_map.1 mem
        exact ih key
      · intro member mem
        obtain ⟨key, _, rfl⟩ := List.mem_map.1 mem
        rfl

/-- Over types of documents every part of a tree has a type of documents. -/
theorem Expr.Typed.ofDocuments [HasDocuments ρ] {types : List (ValueType ρ)} {expr : Expr ρ}
    (typed : expr.Typed types) (documents : ∀ type ∈ types, type.OfDocuments) :
    expr.type.OfDocuments := by
  induction typed with
  | literal => exact (Literal.scalar_type _).ofDocuments
  | input bound => exact documents _ (List.mem_of_getElem? bound)
  | member _ listed ih => exact ((ih documents).member listed).1
  | unary _ _ ih => exact ih documents
  | binary _ _ gives => exact (BinaryOp.scalar_of_resultType? gives).ofDocuments
  | pattern => exact .boolean
  | call => exact (Function.scalar_resultType _).ofDocuments
  | nested => exact (Quantifier.scalar_resultType _).ofDocuments

/-! ## Answers -/

/-- A question is answered by the results of its test. -/
theorem Quantifier.answer_eq_of_map_eq {quantifier : Quantifier} {passes passes' : Value ρ → Bool}
    {elements elements' : List (Value ρ)} (same : elements.map passes = elements'.map passes') :
    quantifier.answer passes elements = quantifier.answer passes' elements' := by
  have counted : ∀ (passes : Value ρ → Bool) (elements : List (Value ρ)),
      elements.countP passes = (elements.map passes).countP id := by
    intro passes elements
    rw [List.countP_map]
    rfl
  cases quantifier with
  | any =>
      have results := congrArg (List.any · id) same
      simp only [List.any_map, Function.id_comp] at results
      simp only [answer, results]
  | all =>
      have results := congrArg (List.all · id) same
      simp only [List.all_map, Function.id_comp] at results
      simp only [answer, results]
  | count => simp only [answer, counted, same]

/-! ## Alike values -/

/-- Records are documents that agree on the keys, sequences are alike element by element, and all
else is the same. -/
inductive Value.Alike [HasDocuments ρ] (keys : List String) : Value ρ → Value ρ → Prop
  | record {left right : Json} (agree : Json.AgreeOn keys left right) :
      Alike keys (.record (HasDocuments.kind.wrap left)) (.record (HasDocuments.kind.wrap right))
  | sequence {left right : List (Value ρ)} (items : List.Forall₂ (Alike keys) left right) :
      Alike keys (.sequence left) (.sequence right)
  | same {value : Value ρ} : Alike keys value value

namespace Value.Alike

variable [HasDocuments ρ] {keys : List String} {left right : Value ρ}

/-- Alike values without parts are equal. -/
theorem eq_of_scalar {type : ValueType ρ} (alike : Alike keys left right) (scalar : type.Scalar)
    (admits : type.Admits left) : left = right := by
  cases alike with
  | record => cases admits; cases scalar
  | sequence => cases admits; cases scalar
  | same => rfl

theorem items (alike : Alike keys left right) :
    List.Forall₂ (Alike keys) left.items right.items := by
  cases alike with
  | record => exact .nil
  | sequence items => exact items
  | same => exact List.forall₂_same.2 fun _ _ => .same

/-- Tests that do not tell alike elements apart have the same results one by one. -/
theorem map_eq {elements elements' : List (Value ρ)} {passes passes' : Value ρ → Bool}
    (alike : List.Forall₂ (Alike keys) elements elements')
    (same : ∀ element ∈ elements, ∀ element', Alike keys element element' →
      passes element = passes' element') :
    elements.map passes = elements'.map passes' := by
  induction alike with
  | nil => rfl
  | cons first others ih =>
      rw [List.map_cons, List.map_cons, same _ List.mem_cons_self _ first,
        ih fun element mem => same element (List.mem_cons_of_mem _ mem)]

end Value.Alike

namespace Document

variable [HasDocuments ρ] {keys : List String}

/-- Documents that agree are read as alike values. -/
theorem alike_toValue : ∀ (type : ValueType ρ) {left right : Json},
    Json.AgreeOn keys left right → Value.Alike keys (toValue type left) (toValue type right)
  | _, _, _, .same => .same
  | .record _ _, _, _, .object named => .record (.object named)
  | .sequence element, _, _, .array items => by
      refine .sequence ?_
      rw [List.forall₂_map_left_iff, List.forall₂_map_right_iff]
      exact items.imp fun _ _ agree => alike_toValue element agree
  | .boolean, _, _, .object _ | .boolean, _, _, .array _
  | .integer, _, _, .object _ | .integer, _, _, .array _
  | .float, _, _, .object _ | .float, _, _, .array _
  | .string, _, _, .object _ | .string, _, _, .array _
  | .timeSpan, _, _, .object _ | .timeSpan, _, _, .array _
  | .dateTime, _, _, .object _ | .dateTime, _, _, .array _
  | .record _ _, _, _, .array _ | .sequence _, _, _, .object _ => .same

theorem alike_elim {type : ValueType ρ} {left right : Option Json}
    (values : Option.Rel (Json.AgreeOn keys) left right) :
    Value.Alike keys (left.elim .null (toValue type)) (right.elim .null (toValue type)) := by
  cases values with
  | none => exact .same
  | some agree => exact alike_toValue type agree

/-- A member that is named among the keys is alike in alike records. -/
theorem alike_readFrom {key : String} {type : ValueType ρ} {base base' : Value ρ}
    (alike : Value.Alike keys base base') (named : key ∈ keys) :
    Value.Alike keys ((member key type).readFrom base) ((member key type).readFrom base') := by
  cases alike with
  | record agree =>
      simp only [Field.readFrom, member, RecordKind.reader, RecordKind.unwrap?_wrap,
        Option.elim_some]
      exact alike_elim (agree.get? named)
  | sequence => exact .same
  | same => exact .same

end Document

/-! ## Two runs of a query -/

namespace Expr

mutual

/-- The names of the members that an expression reads. -/
def names : Expr ρ → List String
  | .literal _ | .input _ _ => []
  | .member base read => read.name :: base.names
  | .unary _ operand => operand.names
  | .binary _ _ left right => left.names ++ right.names
  | .pattern _ _ left right => left.names ++ right.names
  | .call _ arguments => namesAll arguments
  | .nested _ _ source predicate => source.names ++ predicate.names

/-- The names of the members that some expressions read. -/
def namesAll : List (Expr ρ) → List String
  | [] => []
  | expr :: exprs => expr.names ++ namesAll exprs

end

theorem names_subset_namesAll {exprs : List (Expr ρ)} {expr : Expr ρ} (mem : expr ∈ exprs) :
    expr.names ⊆ namesAll exprs := by
  induction exprs with
  | nil => cases mem
  | cons first exprs ih =>
      rw [namesAll]
      rcases List.mem_cons.1 mem with rfl | mem
      · exact List.subset_append_left _ _
      · exact List.Subset.trans (ih mem) (List.subset_append_right _ _)

end Expr

namespace Frames

variable [HasDocuments ρ] {keys : List String}

/-- There are as many frames on both sides, and what they hold is alike. -/
def Alike (keys : List String) (frames frames' : Frames ρ) : Prop :=
  List.Forall₂ (Value.Alike keys) frames.inputs frames'.inputs

namespace Alike

variable {frames frames' : Frames ρ}

theorem input (alike : Alike keys frames frames') (depth : Nat) :
    Value.Alike keys (frames.input depth) (frames'.input depth) := by
  unfold Alike at alike
  unfold Frames.input
  generalize frames.inputs = inputs at alike
  generalize frames'.inputs = inputs' at alike
  induction alike generalizing depth with
  | nil => exact .same
  | cons first others ih =>
      cases depth with
      | zero => exact first
      | succ depth => exact ih depth

theorem enter {value value' : Value ρ} (alike : Alike keys frames frames')
    (elements : Value.Alike keys value value') :
    Alike keys ⟨frames.inputs ++ [value]⟩ ⟨frames'.inputs ++ [value']⟩ :=
  List.rel_append alike (.cons elements .nil)

end Alike

end Frames

namespace Expr

variable [BEq ρ] [HasDocuments ρ] {keys : List String} {types : List (ValueType ρ)}

/-- A tree that reads no other keys has alike values over alike frames. -/
theorem Typed.alike {expr : Expr ρ} (typed : expr.Typed types)
    (documents : ∀ type ∈ types, type.OfDocuments) (named : expr.names ⊆ keys) :
    ∀ {frames frames' : Frames ρ}, frames.Fit types → frames.Alike keys frames' →
      Value.Alike keys (expr.valueIn frames.environment) (expr.valueIn frames'.environment) := by
  induction typed with
  | literal =>
      intro frames frames' _ _
      exact .same
  | @input types depth type bound =>
      intro frames frames' fit alike
      obtain ⟨inside, _⟩ := List.getElem?_eq_some_iff.1 bound
      have inside : depth < frames.inputs.length := fit.length ▸ inside
      have inside' : depth < frames'.inputs.length := alike.length_eq ▸ inside
      rw [valueIn, valueIn, ← Frames.input_eq_of_lt inside, ← Frames.input_eq_of_lt inside']
      exact alike.input depth
  | @member types base read base_typed listed ih =>
      intro frames frames' fit alike
      rw [names, List.cons_subset] at named
      have reader := ((base_typed.ofDocuments documents).member listed).2
      rw [valueIn, valueIn, reader]
      exact Document.alike_readFrom (ih documents named.2 fit alike) named.1
  | @unary types op operand operand_typed takes ih =>
      intro frames frames' fit alike
      have same := (ih documents named fit alike).eq_of_scalar (UnaryOp.scalar_of_takes takes)
        (operand_typed.admits fit)
      rw [valueIn, valueIn, same]
      exact .same
  | @binary types op type left right left_typed right_typed gives ihLeft ihRight =>
      intro frames frames' fit alike
      rw [names, List.append_subset] at named
      obtain ⟨left_scalar, right_scalar⟩ := BinaryOp.scalar_operands gives
      have left_same := (ihLeft documents named.1 fit alike).eq_of_scalar left_scalar
        (left_typed.admits fit)
      have right_same := (ihRight documents named.2 fit alike).eq_of_scalar right_scalar
        (right_typed.admits fit)
      rw [valueIn, valueIn, left_same, right_same]
      exact .same
  | @pattern types op regex? left right left_typed right_typed left_text right_text written ihLeft
      ihRight =>
      intro frames frames' fit alike
      rw [names, List.append_subset] at named
      have left_same := (ihLeft documents named.1 fit alike).eq_of_scalar (left_text ▸ .string)
        (left_typed.admits fit)
      have right_same := (ihRight documents named.2 fit alike).eq_of_scalar (right_text ▸ .string)
        (right_typed.admits fit)
      cases regex? with
      | some regex =>
          rw [valueIn, valueIn, left_same]
          exact .same
      | none =>
          rw [valueIn, valueIn, left_same, right_same]
          exact .same
  | @call types function arguments arguments_typed texts count open_ ih =>
      intro frames frames' fit alike
      have same : arguments.map (valueIn frames.environment) =
          arguments.map (valueIn frames'.environment) := by
        refine List.map_congr_left fun argument mem => ?_
        have inside := List.Subset.trans (names_subset_namesAll mem) named
        exact (ih argument mem documents inside fit alike).eq_of_scalar
          (texts argument mem ▸ .string) ((arguments_typed argument mem).admits fit)
      rw [valueIn, valueIn, valuesIn_eq_map, valuesIn_eq_map, same]
      exact .same
  | @nested types quantifier element source predicate source_typed sequence predicate_typed boolean
      ihSource ihPredicate =>
      intro frames frames' fit alike
      rw [names, List.append_subset] at named
      have sources := (ihSource documents named.1 fit alike).items
      have source_documents := source_typed.ofDocuments documents
      have source_admits := source_typed.admits fit
      rw [sequence] at source_documents source_admits
      have documents' : ∀ type ∈ types ++ [element], type.OfDocuments :=
        List.forall_mem_append.2
          ⟨documents, List.forall_mem_singleton.2 source_documents.element⟩
      have tests : ∀ value ∈ (source.valueIn frames.environment).items, ∀ value',
          Value.Alike keys value value' →
          (predicate.valueIn (value :: frames.environment)).isTrue =
            (predicate.valueIn (value' :: frames'.environment)).isTrue := by
        intro value mem value' elements
        have inner := fit.enter source_documents.honest.element (source_admits.items mem)
        have values := ihPredicate documents' named.2 inner (alike.enter elements)
        have same := values.eq_of_scalar (boolean ▸ .boolean) (predicate_typed.admits inner)
        simp only [Frames.environment, List.reverse_append] at same
        exact congrArg Value.isTrue same
      rw [valueIn, valueIn, Quantifier.answer_eq_of_map_eq (Value.Alike.map_eq sources tests)]
      exact .same

end Expr

/-! ## Queries -/

theorem Predicate.compile_eq_ok_iff {α : Type} {now : DateTime} {schema : Schema ρ α}
    {query : String} {predicate : Predicate ρ α} :
    Predicate.compile now schema query = .ok predicate ↔
      ∃ expr, parse now schema.type query = .ok expr ∧ ⟨expr, schema⟩ = predicate :=
  map_eq_ok_iff

/-- A query over documents depends on the keys that its tree names, and on nothing else of them.
The schema may be any that reads documents by their keys, as an inferred one does. -/
theorem holds_of_agreeOn [BEq ρ] [HasDocuments ρ] {now : DateTime} {type : ValueType ρ}
    {query : String} {predicate : Predicate ρ Json} {left right : Json}
    (documents : type.OfDocuments)
    (compiles : Predicate.compile now (Document.schemaOf type) query = .ok predicate)
    (agree : Json.AgreeOn predicate.expression.names left right) :
    predicate.holds left = predicate.holds right := by
  obtain ⟨expr, parses, rfl⟩ := Predicate.compile_eq_ok_iff.1 compiles
  obtain ⟨typed, boolean⟩ := typed_of_parse parses
  have fit : Frames.Fit [type] (.start (Document.toValue type left)) :=
    .start documents.honest (Document.admits_toValue type left)
  have alike : Frames.Alike expr.names (.start (Document.toValue type left))
      (.start (Document.toValue type right)) :=
    .cons (Document.alike_toValue type agree) .nil
  have values := typed.alike (List.forall_mem_singleton.2 documents) (List.Subset.refl _) fit alike
  have same := values.eq_of_scalar (boolean ▸ .boolean) (typed.admits fit)
  have runs : ∀ document, expr.valueOn (Document.toValue type document) =
      expr.valueIn [Document.toValue type document] :=
    fun document => congrArg Prod.fst (typed.runsIn (.start (Document.toValue type document)) rfl)
  calc expr.holdsOn (Document.toValue type left)
      = (expr.valueIn [Document.toValue type left]).isTrue := by rw [Expr.holdsOn, runs]
    _ = (expr.valueIn [Document.toValue type right]).isTrue := congrArg Value.isTrue same
    _ = expr.holdsOn (Document.toValue type right) := by rw [Expr.holdsOn, runs]

theorem holds_of_agreeOn_inferred :
    ∃ (now : DateTime) (type : ValueType Json) (predicate : Predicate Json Json)
      (left right : Json),
      left = .object [("a", .integer 1), ("xs", .array [.object [("n", .integer 3)]])] ∧
      right = .object [("xs", .array [.object [("b", .null), ("n", .integer 3)]])] ∧
      Document.inferType Document.rootName [left] = type ∧
      Predicate.compile now (Document.schemaOf type) "xs any \x7b n > 2 \x7d" =
        .ok predicate ∧
      predicate.expression.names = ["xs", "n"] ∧
      Json.AgreeOn ["xs", "n"] left right ∧
      predicate.holds left = predicate.holds right := by
  have inferred : (Document.inferType Document.rootName
      [.object [("a", .integer 1), ("xs", .array [.object [("n", .integer 3)]])]] :
        ValueType Json) =
      .record "Document" [Document.member "a" .integer,
        Document.member "xs" (.sequence (.record "xs" [Document.member "n" .integer]))] := by
    cbv
  have parses : parse ⟨⟨0, by decide⟩, .midnight⟩
      (.record "Document" [Document.member "a" .integer,
        Document.member "xs" (.sequence (.record "xs" [Document.member "n" .integer]))] :
        ValueType Json) "xs any \x7b n > 2 \x7d" =
      .ok (.nested .any 1
        (.member (.input 0 (.record "Document" [Document.member "a" .integer,
          Document.member "xs" (.sequence (.record "xs" [Document.member "n" .integer]))]))
          (Document.member "xs"
            (.sequence (.record "xs" [Document.member "n" .integer]))))
        (.binary .greater .boolean
          (.member (.input 1 (.record "xs" [Document.member "n" .integer]))
            (Document.member "n" .integer))
          (.literal (.integer 2)))) := by cbv
  have agree : Json.AgreeOn ["xs", "n"]
      (.object [("a", .integer 1), ("xs", .array [.object [("n", .integer 3)]])])
      (.object [("xs", .array [.object [("b", .null), ("n", .integer 3)]])]) := by
    refine .object (List.forall_mem_cons.2 ⟨.some (.array (.cons (.object ?_) .nil)), ?_⟩)
    · exact List.forall_mem_cons.2 ⟨.none, List.forall_mem_singleton.2 (.some .same)⟩
    · exact List.forall_mem_singleton.2 .none
  have compiles : Predicate.compile _ (Document.schemaOf _) _ = .ok _ :=
    Predicate.compile_eq_ok_iff.2 ⟨_, parses, rfl⟩
  have documents := inferred ▸ Document.ofDocuments_inferType _ _
  exact ⟨_, _, _, _, _, rfl, rfl, inferred, compiles, rfl, agree,
    holds_of_agreeOn documents compiles agree⟩

end RecordQuery
