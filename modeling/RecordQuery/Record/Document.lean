import RecordQuery.Json.Basic
import RecordQuery.Record.Schema
import RecordQuery.Time.Reading

/-!
# Asking JSON documents

Documents declare no types, so a type is inferred from all of them together.

* The keys of objects are gathered over the documents, in the order in which they occur
  first.
* Numbers are integers, unless one of them is no integer of 64 bits; then they are floats.
* Texts are points in time if each of them writes one.
* Arrays are sequences of the type inferred from the elements of all of them.
* Where documents disagree the first one that has a value there, null apart, decides; what
  has another shape reads as null.
* Where there is no value at all the type is that of texts.

A record is the JSON object itself, and a member is read by its key.  Documents may stand
among host records of other kinds (`HasDocuments`); those have only null members here.
-/

set_option autoImplicit false

namespace RecordQuery

/-! ## The depth of documents -/

namespace Json

mutual

/-- How deeply arrays and objects are nested in a document. -/
def depth : Json → Nat
  | .array items => depthItems items + 1
  | .object members => depthMembers members + 1
  | _ => 0

/-- The greatest depth of some documents. -/
def depthItems : List Json → Nat
  | [] => 0
  | item :: items => max item.depth (depthItems items)

/-- The greatest depth of the values of some members. -/
def depthMembers : List (String × Json) → Nat
  | [] => 0
  | (_, value) :: members => max value.depth (depthMembers members)

end

theorem depthItems_lt_iff {items : List Json} {bound : Nat} :
    depthItems items < bound ↔ 0 < bound ∧ ∀ item ∈ items, item.depth < bound := by
  induction items with
  | nil => simp [depthItems]
  | cons item items ih =>
    simp only [depthItems, List.forall_mem_cons, Nat.max_lt, ih]
    exact ⟨fun ⟨head, positive, tail⟩ => ⟨positive, head, tail⟩,
      fun ⟨positive, head, tail⟩ => ⟨head, positive, tail⟩⟩

theorem depth_le_depthItems {items : List Json} {item : Json} (mem : item ∈ items) :
    item.depth ≤ depthItems items := by
  have bound := (depthItems_lt_iff.1 (Nat.lt_succ_self (depthItems items))).2 item mem
  omega

theorem depth_le_depthMembers {members : List (String × Json)} {member : String × Json}
    (mem : member ∈ members) : member.2.depth ≤ depthMembers members := by
  induction members with
  | nil => cases mem
  | cons head members ih =>
    simp only [depthMembers]
    rcases List.mem_cons.1 mem with rfl | mem
    · omega
    · have := ih mem
      omega

/-- The items of an array are less deep than the array. -/
theorem depth_lt_of_items? {json : Json} {items : List Json} (h : json.items? = some items)
    {item : Json} (mem : item ∈ items) : item.depth < json.depth := by
  cases json <;> simp only [items?, Option.some.injEq, reduceCtorEq] at h
  subst h
  have := depth_le_depthItems mem
  simp only [depth]
  omega

/-- The value of a member is less deep than the object. -/
theorem depth_lt_of_get? {json value : Json} {key : String} (h : json.get? key = some value) :
    value.depth < json.depth := by
  cases json <;> simp only [get?, Option.map_eq_some_iff, reduceCtorEq] at h
  obtain ⟨member, found, rfl⟩ := h
  have := depth_le_depthMembers (List.mem_of_find?_eq_some found)
  simp only [depth]
  omega

end Json

/-- Records of type `ρ` among which JSON documents are one kind. -/
class HasDocuments (ρ : Type) where
  kind : RecordKind ρ Json

/-- Documents alone. -/
instance : HasDocuments Json := ⟨⟨id, some, fun _ => rfl⟩⟩

namespace Document

/-! ## Reading -/

section Reading

variable {ρ : Type} [HasDocuments ρ]

/-- A document as a value of a type; null where the shapes disagree. -/
def toValue : ValueType ρ → Json → Value ρ
  | .boolean, .bool value => .boolean value
  | .integer, json => json.int64?.elim .null .integer
  | .float, json => json.float?.elim .null .float
  | .string, .string text => .string text
  | .dateTime, .string text => (DateTime.ofText text).toOption.elim .null .dateTime
  | .timeSpan, .string text => (TimeSpan.ofText text).toOption.elim .null .timeSpan
  | .record _ _, .object members => .record (HasDocuments.kind.wrap (.object members))
  | .sequence element, .array items => .sequence (items.map (toValue element))
  | _, _ => .null

/-- The member of a record type that reads the value of a key. -/
def member (key : String) (type : ValueType ρ) : Member ρ where
  name := key
  type := type
  read := HasDocuments.kind.reader fun document => (document.get? key).elim .null (toValue type)

/-- The schema of documents of a type. -/
def schemaOf (type : ValueType ρ) : Schema ρ Json := ⟨type, toValue type⟩

end Reading

/-! ## Inference -/

/-- All items of the arrays among some documents. -/
def itemsOf (documents : List Json) : List Json :=
  documents.flatMap fun document => document.items?.getD []

/-- The values that a key has in the objects among some documents. -/
def valuesAt (key : String) (documents : List Json) : List Json :=
  documents.filterMap (Json.get? key)

/-- The keys of the objects among some documents, in the order of first occurrence. -/
def keysOf (documents : List Json) : List String :=
  (documents.flatMap Json.keys).eraseDups

/-- The type of numbers: integers if there is nothing else among them. -/
def numberType {ρ : Type} (documents : List Json) : ValueType ρ :=
  if (documents.filter Json.isNumber).all fun number => number.int64?.isSome then .integer
  else .float

/-- The type of texts: points in time if all of them are. -/
def textType {ρ : Type} (documents : List Json) : ValueType ρ :=
  if (documents.filterMap Json.string?).all fun text => (DateTime.ofText text).toBool
  then .dateTime
  else .string

theorem depthItems_itemsOf_lt {documents : List Json} {first : Json} (mem : first ∈ documents)
    (deep : 0 < first.depth) : Json.depthItems (itemsOf documents) < Json.depthItems documents := by
  refine Json.depthItems_lt_iff.2
    ⟨Nat.lt_of_lt_of_le deep (Json.depth_le_depthItems mem), fun item hitem => ?_⟩
  obtain ⟨document, hdocument, hitem⟩ := List.mem_flatMap.1 hitem
  cases h : document.items? with
  | none => simp [h] at hitem
  | some items =>
    rw [h] at hitem
    exact Nat.lt_of_lt_of_le (Json.depth_lt_of_items? h hitem)
      (Json.depth_le_depthItems hdocument)

theorem depthItems_valuesAt_lt {documents : List Json} {first : Json} (key : String)
    (mem : first ∈ documents) (deep : 0 < first.depth) :
    Json.depthItems (valuesAt key documents) < Json.depthItems documents := by
  refine Json.depthItems_lt_iff.2
    ⟨Nat.lt_of_lt_of_le deep (Json.depth_le_depthItems mem), fun value hvalue => ?_⟩
  obtain ⟨document, hdocument, h⟩ := List.mem_filterMap.1 hvalue
  exact Nat.lt_of_lt_of_le (Json.depth_lt_of_get? h) (Json.depth_le_depthItems hdocument)

/-- The first document that is not null. -/
def firstPresent? (documents : List Json) : Option Json := documents.find? (!·.isNull)

/-- The type inferred from some documents; `name` is the name of their record type, if
they are objects. -/
def inferType {ρ : Type} [HasDocuments ρ] (name : String) (documents : List Json) :
    ValueType ρ :=
  match _present : firstPresent? documents with
  | none | some .null => .string
  | some (.bool _) => .boolean
  | some (.integer _) | some (.float _) => numberType documents
  | some (.string _) => textType documents
  | some (.array _) => .sequence (inferType name (itemsOf documents))
  | some (.object _) =>
    .record name <| (keysOf documents).map fun key =>
      member key (inferType key (valuesAt key documents))
termination_by Json.depthItems documents
decreasing_by
  · exact depthItems_itemsOf_lt (List.mem_of_find?_eq_some _present) (Nat.succ_pos _)
  · exact depthItems_valuesAt_lt _ (List.mem_of_find?_eq_some _present) (Nat.succ_pos _)

/-- The name of the record type of the documents themselves. -/
def rootName : String := "Document"

/-- The schema inferred from some documents. -/
def inferSchema {ρ : Type} [HasDocuments ρ] (documents : List Json) : Schema ρ Json :=
  schemaOf (inferType rootName documents)

end Document

end RecordQuery
