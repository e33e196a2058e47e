import Mathlib
import RecordQuery.Record.Document

/-!
# Paths into documents

An address leads to one value of one document, by keys and by places in arrays.  A path is what is
left of an address when the places are forgotten.  It leads to values of all documents at once, and
the items of all arrays on the way are thrown together (`Document.valuesAlong`).

Where documents disagree about the kind of a value, the first one that has a value decides.  The
others are not readable there, and the path does not go on into them (`Document.readable`).

The type inferred from documents goes along with paths: its parts are inferred from the values that
are one step further (`Document.inferType_eq`).
-/

set_option autoImplicit false

namespace RecordQuery

namespace Json

/-- The kinds of documents.  There is one kind of numbers, however they are written. -/
inductive Kind where
  | null
  | boolean
  | number
  | string
  | array
  | object
deriving DecidableEq, Repr

/-- The kind of a document. -/
def kind : Json → Kind
  | .null => .null
  | .bool _ => .boolean
  | .integer _ | .float _ => .number
  | .string _ => .string
  | .array _ => .array
  | .object _ => .object

/-- A step from a document to a part of it. -/
inductive Step where
  | key (key : String)
  | item (index : Nat)
deriving DecidableEq, Repr

/-- The part of a document that a step leads to. -/
def step? (document : Json) : Step → Option Json
  | .key key => document.get? key
  | .item index => (document.items?.getD [])[index]?

/-- The value at an address in a document. -/
def at? (document : Json) : List Step → Option Json
  | [] => some document
  | step :: steps => (document.step? step).bind (·.at? steps)

/-- A step of a path: to a key, or to all items at once. -/
inductive Part where
  | key (key : String)
  | items
deriving DecidableEq, Repr

/-- A step without its place in an array. -/
def Step.part : Step → Part
  | .key name => .key name
  | .item _ => .items

theorem mem_keys_iff {key : String} {document : Json} :
    key ∈ document.keys ↔ ∃ value, document.get? key = some value := by
  cases document with
  | object members =>
      simp only [keys, get?, List.mem_map, Option.map_eq_some_iff]
      constructor
      · rintro ⟨member, mem, rfl⟩
        cases found : members.find? (·.1 = member.1) with
        | none => exact absurd (List.find?_eq_none.1 found member mem) (by simp)
        | some first => exact ⟨first.2, first, rfl, rfl⟩
      · rintro ⟨_, member, found, rfl⟩
        exact ⟨member, List.mem_of_find?_eq_some found, by simpa using List.find?_some found⟩
  | _ => simp [keys, get?]

end Json

namespace Document

open Json (Kind Part)

/-- The kind of the first document that is not null. -/
def kindOf? (documents : List Json) : Option Kind := (firstPresent? documents).map Json.kind

/-- The documents that are read as something: those of the kind of the first one with a value. -/
def readable (documents : List Json) : List Json :=
  documents.filter fun document => kindOf? documents = some document.kind

/-- The values that a step of a path leads to, from those documents that are readable. -/
def valuesOf (documents : List Json) : Part → List Json
  | .key key => valuesAt key (readable documents)
  | .items => itemsOf (readable documents)

/-- The values that a path leads to. -/
def valuesAlong (documents : List Json) : List Part → List Json
  | [] => documents
  | part :: path => valuesAlong (valuesOf documents part) path

section Values

variable {documents : List Json}

theorem firstPresent_ne_null {first : Json} (present : firstPresent? documents = some first) :
    first ≠ .null := by
  rintro rfl
  exact absurd (List.find?_some present) (by decide)

theorem kindOf?_eq_none_iff {documents : List Json} :
    kindOf? documents = none ↔ ∀ document ∈ documents, document = .null := by
  rw [kindOf?, Option.map_eq_none_iff, firstPresent?, List.find?_eq_none]
  refine forall₂_congr fun document _ => ?_
  cases document <;> simp [Json.isNull]

theorem kindOf?_ne_null : kindOf? documents ≠ some .null := by
  intro decided
  obtain ⟨first, present, kind⟩ := Option.map_eq_some_iff.1 decided
  refine firstPresent_ne_null present ?_
  cases first <;> first | rfl | cases kind

theorem mem_readable_iff {document : Json} :
    document ∈ readable documents ↔
      document ∈ documents ∧ kindOf? documents = some document.kind := by
  simp [readable]

theorem valuesOf_items (decided : kindOf? documents = some .array) :
    valuesOf documents .items = itemsOf documents := by
  have unreadable : ∀ document ∈ documents, document.kind ≠ .array →
      document.items?.getD [] = [] := by
    intro document _ other
    cases document <;> first | rfl | exact absurd rfl other
  simp only [valuesOf, itemsOf, readable, decided, Option.some.injEq]
  clear decided
  induction documents with
  | nil => rfl
  | cons document documents ih =>
      obtain ⟨first, others⟩ := List.forall_mem_cons.1 unreadable
      by_cases array : Json.Kind.array = document.kind
      · simp only [List.filter_cons_of_pos, decide_eq_true array, List.flatMap_cons, ih others]
      · rw [List.filter_cons_of_neg (by simpa using array), List.flatMap_cons,
          first (Ne.symm array), List.nil_append, ih others]

theorem valuesOf_key (decided : kindOf? documents = some .object) (key : String) :
    valuesOf documents (.key key) = valuesAt key documents := by
  simp only [valuesOf, valuesAt, readable, decided, Option.some.injEq, List.filterMap_filter]
  refine List.filterMap_congr fun document _ => ?_
  cases document <;> rfl

/-- The items of an array are among the values of the path, if the array is readable. -/
theorem mem_valuesOf {document value : Json} {step : Json.Step}
    (mem : document ∈ readable documents) (leads : document.step? step = some value) :
    value ∈ valuesOf documents step.part := by
  cases step with
  | key key => exact List.mem_filterMap.2 ⟨document, mem, leads⟩
  | item index => exact List.mem_flatMap.2 ⟨document, mem, List.mem_of_getElem? leads⟩

end Values

/-! ## Inferred types along paths -/

section Types

variable {ρ : Type} [HasDocuments ρ]

/-- The kind of the documents decides about the shape of the type, and its parts are inferred from
the values that are one step further. -/
theorem inferType_eq (name : String) (documents : List Json) :
    (inferType name documents : ValueType ρ) =
      match kindOf? documents with
      | none | some .null => .string
      | some .boolean => .boolean
      | some .number => numberType documents
      | some .string => textType documents
      | some .array => .sequence (inferType name (valuesOf documents .items))
      | some .object =>
          .record name <| (keysOf documents).map fun key =>
            member key (inferType key (valuesOf documents (.key key))) := by
  have decided : ∀ {first : Json}, firstPresent? documents = some first →
      kindOf? documents = some first.kind := fun present => congrArg (Option.map Json.kind) present
  rw [inferType]
  split
  · next absent => rw [kindOf?, absent]; rfl
  · next present => exact absurd rfl (firstPresent_ne_null present)
  · next present => rw [decided present]; rfl
  · next present => rw [decided present]; rfl
  · next present => rw [decided present]; rfl
  · next present => rw [decided present]; rfl
  · next present =>
      rw [← valuesOf_items (decided present), decided present]
      rfl
  · next present =>
      simp only [← valuesOf_key (decided present)]
      rw [decided present]
      rfl

end Types

end Document

end RecordQuery
