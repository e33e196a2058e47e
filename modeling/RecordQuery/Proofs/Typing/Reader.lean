import RecordQuery.Proofs.Typing.Admission
import RecordQuery.Record.Document

/-!
# Readers that keep to their types

A type is honest if every reader in it, however deep, gives null or a value of the declared type
of its member, for every record there is (`ValueType.Honest`).  Whether a type is honest cannot be
told from the outside, since a reader is any function.

What can be told is how a type was put together.  `ValueType.Registered`, `HostValue.Registered`,
`Field.Registered` and `Schema.Registered` list the ways: scalars, members converted by themselves
or by a schema of their own, JSON members, records of these, sequences.  A hand-written reader is
one of the ways too, and it is the only one with a promise about values: that what it gives is of
the declared type.  Everything registered is honest (`ValueType.Registered.honest` and its
companions).  The readers find null in records of another kind and in documents of another shape,
so nothing is asked of the records that they are handed.
-/

set_option autoImplicit false

namespace RecordQuery

variable {ρ : Type}

/-- Every reader in the type keeps to the type of its member, whatever record it is handed. -/
inductive ValueType.Honest : ValueType ρ → Prop
  | boolean : Honest .boolean
  | integer : Honest .integer
  | float : Honest .float
  | string : Honest .string
  | timeSpan : Honest .timeSpan
  | dateTime : Honest .dateTime
  | record {name : String} {members : List (Member ρ)}
      (types : ∀ member ∈ members, Honest member.type)
      (readers : ∀ member ∈ members, ∀ record, member.type.Admits (member.read record)) :
      Honest (.record name members)
  | sequence {element : ValueType ρ} (element_honest : Honest element) :
      Honest (.sequence element)

/-! ## How types are put together -/

mutual

/-- The types that schemas are made of. -/
inductive ValueType.Registered [HasDocuments ρ] : ValueType ρ → Prop
  | boolean : ValueType.Registered .boolean
  | integer : ValueType.Registered .integer
  | float : ValueType.Registered .float
  | string : ValueType.Registered .string
  | timeSpan : ValueType.Registered .timeSpan
  | dateTime : ValueType.Registered .dateTime
  | record {name : String} {members : List (Member ρ)}
      (registered : ∀ member ∈ members, Field.Registered member) :
      ValueType.Registered (.record name members)
  | sequence {element : ValueType ρ} (registered : ValueType.Registered element) :
      ValueType.Registered (.sequence element)

/-- The conversions of host values: those that are provided, and hand-written ones that keep to
their types. -/
inductive HostValue.Registered [HasDocuments ρ] : {α : Type} → HostValue ρ α → Prop
  | bool : HostValue.Registered (inferInstance : HostValue ρ Bool)
  | int8 : HostValue.Registered (inferInstance : HostValue ρ Int8)
  | int16 : HostValue.Registered (inferInstance : HostValue ρ Int16)
  | int32 : HostValue.Registered (inferInstance : HostValue ρ Int32)
  | int64 : HostValue.Registered (inferInstance : HostValue ρ Int64)
  | uint8 : HostValue.Registered (inferInstance : HostValue ρ UInt8)
  | uint16 : HostValue.Registered (inferInstance : HostValue ρ UInt16)
  | uint32 : HostValue.Registered (inferInstance : HostValue ρ UInt32)
  | float : HostValue.Registered (inferInstance : HostValue ρ Float)
  | float32 : HostValue.Registered (inferInstance : HostValue ρ Float32)
  | string : HostValue.Registered (inferInstance : HostValue ρ String)
  | timeSpan : HostValue.Registered (inferInstance : HostValue ρ TimeSpan)
  | dateTime : HostValue.Registered (inferInstance : HostValue ρ DateTime)
  | option {α : Type} [host : HostValue ρ α] (registered : HostValue.Registered host) :
      HostValue.Registered (inferInstance : HostValue ρ (Option α))
  | list {α : Type} [host : HostValue ρ α] (registered : HostValue.Registered host) :
      HostValue.Registered (inferInstance : HostValue ρ (List α))
  | handwritten {α : Type} {host : HostValue ρ α} (registered : ValueType.Registered host.type)
      (keeps : ∀ value, host.type.Admits (host.toValue value)) : HostValue.Registered host

/-- The members that record types are made of. -/
inductive Field.Registered [HasDocuments ρ] : Member ρ → Prop
  | field {α β : Type} [host : HostValue ρ β] {kind : RecordKind ρ α} {name : String}
      {read : α → β} (registered : HostValue.Registered host) :
      Field.Registered (kind.field name read)
  | nested {α β : Type} {kind : RecordKind ρ α} {name : String} {schema : Schema ρ β}
      {read : α → β} (registered : Schema.Registered schema) :
      Field.Registered (kind.nested name schema read)
  | nestedList {α β : Type} {kind : RecordKind ρ α} {name : String} {schema : Schema ρ β}
      {read : α → List β} (registered : Schema.Registered schema) :
      Field.Registered (kind.nestedList name schema read)
  | document {key : String} {type : ValueType ρ} (registered : ValueType.Registered type) :
      Field.Registered (Document.member key type)
  | handwritten {member : Member ρ} (registered : ValueType.Registered member.type)
      (keeps : ∀ record, member.type.Admits (member.read record)) : Field.Registered member

/-- The schemas of inputs and of nested members. -/
inductive Schema.Registered [HasDocuments ρ] : {α : Type} → Schema ρ α → Prop
  | scalar {α : Type} [host : HostValue ρ α] (registered : HostValue.Registered host) :
      Schema.Registered (Schema.scalar ρ α)
  | record {α : Type} {kind : RecordKind ρ α} {name : String} {members : List (Member ρ)}
      (registered : ∀ member ∈ members, Field.Registered member) :
      Schema.Registered (kind.schema name members)
  | document {type : ValueType ρ} (registered : ValueType.Registered type) :
      Schema.Registered (Document.schemaOf type)
  | handwritten {α : Type} {schema : Schema ρ α} (registered : ValueType.Registered schema.type)
      (keeps : ∀ input, schema.type.Admits (schema.lift input)) : Schema.Registered schema

end

/-! ## What readers give -/

theorem ValueType.Admits.elim {α : Type} {type : ValueType ρ} {make : α → Value ρ}
    (makes : ∀ value, type.Admits (make value)) (value? : Option α) :
    type.Admits (value?.elim .null make) := .orNull makes value?

theorem ValueType.Admits.map {α : Type} {element : ValueType ρ} {make : α → Value ρ}
    (makes : ∀ value, element.Admits (make value)) (values : List α) :
    (ValueType.sequence element).Admits (.sequence (values.map make)) := by
  refine .sequence fun item mem => ?_
  obtain ⟨value, _, rfl⟩ := List.mem_map.1 mem
  exact makes value

/-- A reader of one kind of record keeps to a type if it does so on the records of this kind. -/
theorem RecordKind.admits_reader {α : Type} {kind : RecordKind ρ α} {type : ValueType ρ}
    {read : α → Value ρ} (reads : ∀ record, type.Admits (read record)) (record : ρ) :
    type.Admits (kind.reader read record) := .elim reads (kind.unwrap? record)

/-- Whatever the shape of a document, it is read as null or as a value of the type asked for. -/
theorem Document.admits_toValue [HasDocuments ρ] :
    ∀ (type : ValueType ρ) (document : Json), type.Admits (Document.toValue type document)
  | .boolean, document => by cases document <;> first | exact .null | exact .boolean
  | .integer, document => .elim (fun _ => .integer) document.int64?
  | .float, document => .elim (fun _ => .float) document.float?
  | .string, document => by cases document <;> first | exact .null | exact .string
  | .timeSpan, document => by
      cases document with
      | string text => exact .elim (fun _ => .timeSpan) _
      | _ => exact .null
  | .dateTime, document => by
      cases document with
      | string text => exact .elim (fun _ => .dateTime) _
      | _ => exact .null
  | .record _ _, document => by cases document <;> first | exact .null | exact .record
  | .sequence element, document => by
      cases document with
      | array items => exact .map (Document.admits_toValue element) items
      | _ => exact .null

theorem Document.scalar_numberType (documents : List Json) :
    (Document.numberType documents : ValueType ρ).Scalar := by
  unfold Document.numberType
  split
  · exact .integer
  · exact .float

theorem Document.scalar_textType (documents : List Json) :
    (Document.textType documents : ValueType ρ).Scalar := by
  unfold Document.textType
  split
  · exact .dateTime
  · exact .string

/-! ## What is put together is honest -/

section Honesty

variable [HasDocuments ρ]

mutual

theorem ValueType.Registered.honest {type : ValueType ρ} : type.Registered → type.Honest
  | .boolean => .boolean
  | .integer => .integer
  | .float => .float
  | .string => .string
  | .timeSpan => .timeSpan
  | .dateTime => .dateTime
  | .record registered =>
      .record (fun member mem => (registered member mem).honest.1)
        (fun member mem => (registered member mem).honest.2)
  | .sequence registered => .sequence registered.honest

theorem HostValue.Registered.honest {α : Type} {host : HostValue ρ α} :
    host.Registered → host.type.Honest ∧ ∀ value, host.type.Admits (host.toValue value)
  | .bool => ⟨.boolean, fun _ => .boolean⟩
  | .int8 | .int16 | .int32 | .int64 | .uint8 | .uint16 | .uint32 =>
      ⟨.integer, fun _ => .integer⟩
  | .float | .float32 => ⟨.float, fun _ => .float⟩
  | .string => ⟨.string, fun _ => .string⟩
  | .timeSpan => ⟨.timeSpan, fun _ => .timeSpan⟩
  | .dateTime => ⟨.dateTime, fun _ => .dateTime⟩
  | @HostValue.Registered.option _ _ _ _ registered =>
      ⟨registered.honest.1, .elim registered.honest.2⟩
  | @HostValue.Registered.list _ _ _ _ registered =>
      ⟨.sequence registered.honest.1, .map registered.honest.2⟩
  | .handwritten registered keeps => ⟨registered.honest, keeps⟩

theorem Field.Registered.honest {member : Member ρ} :
    Field.Registered member →
      member.type.Honest ∧ ∀ record, member.type.Admits (member.read record)
  | @Field.Registered.field _ _ _ _ _ _ _ _ registered =>
      ⟨registered.honest.1, RecordKind.admits_reader fun _ => registered.honest.2 _⟩
  | .nested registered =>
      ⟨registered.honest.1, RecordKind.admits_reader fun _ => registered.honest.2 _⟩
  | .nestedList registered =>
      ⟨.sequence registered.honest.1, RecordKind.admits_reader fun _ => .map registered.honest.2 _⟩
  | .document registered =>
      ⟨registered.honest, RecordKind.admits_reader fun _ => .elim (Document.admits_toValue _) _⟩
  | .handwritten registered keeps => ⟨registered.honest, keeps⟩

theorem Schema.Registered.honest {α : Type} {schema : Schema ρ α} :
    schema.Registered → schema.type.Honest ∧ ∀ input, schema.type.Admits (schema.lift input)
  | @Schema.Registered.scalar _ _ _ _ registered => registered.honest
  | .record registered =>
      ⟨.record (fun member mem => (registered member mem).honest.1)
        (fun member mem => (registered member mem).honest.2), fun _ => .record⟩
  | .document registered => ⟨registered.honest, Document.admits_toValue _⟩
  | .handwritten registered keeps => ⟨registered.honest, keeps⟩

end

/-! ## Inferred schemas -/

theorem ValueType.Scalar.registered {type : ValueType ρ} (scalar : type.Scalar) :
    type.Registered := by
  cases scalar <;> constructor

/-- The type inferred from documents is put together from members of documents. -/
theorem Document.registered_inferType (name : String) (documents : List Json) :
    (Document.inferType name documents : ValueType ρ).Registered := by
  fun_induction Document.inferType (ρ := ρ) name documents with
  | case1 | case2 => exact .string
  | case3 => exact .boolean
  | case4 | case5 => exact (Document.scalar_numberType _).registered
  | case6 => exact (Document.scalar_textType _).registered
  | case7 _ _ _ _ ih => exact .sequence ih
  | case8 _ _ _ _ ih =>
      refine .record fun member mem => ?_
      obtain ⟨key, _, rfl⟩ := List.mem_map.1 mem
      exact .document (ih key)

theorem Document.registered_inferSchema (documents : List Json) :
    (Document.inferSchema documents : Schema ρ Json).Registered :=
  .document (Document.registered_inferType _ _)

end Honesty

end RecordQuery
