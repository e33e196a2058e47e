import RecordQuery.Record.ValueType

/-!
# Schemas

A schema says how inputs of some host type are asked: the type that queries see, and the
conversion of an input into a value.  Scalars and lists of scalars are converted as they
are (`HostValue`).  A record type is put together from members, each of which reads one
part of a host record; what reads members of one kind of record finds null in every record
of another kind (`RecordKind`).
-/

set_option autoImplicit false

namespace RecordQuery

/-- The type that queries see and the conversion of an input. -/
structure Schema (ρ α : Type) where
  type : ValueType ρ
  lift : α → Value ρ

/-! ## Host types that are values by themselves -/

/-- A host type whose elements are converted without a schema. -/
class HostValue (ρ α : Type) where
  type : ValueType ρ
  toValue : α → Value ρ

section Instances

variable {ρ α : Type}

instance : HostValue ρ Bool := ⟨.boolean, .boolean⟩
instance : HostValue ρ Int8 := ⟨.integer, fun n => .integer n.toInt64⟩
instance : HostValue ρ Int16 := ⟨.integer, fun n => .integer n.toInt64⟩
instance : HostValue ρ Int32 := ⟨.integer, fun n => .integer n.toInt64⟩
instance : HostValue ρ Int64 := ⟨.integer, .integer⟩
instance : HostValue ρ UInt8 := ⟨.integer, fun n => .integer n.toUInt64.toInt64⟩
instance : HostValue ρ UInt16 := ⟨.integer, fun n => .integer n.toUInt64.toInt64⟩
instance : HostValue ρ UInt32 := ⟨.integer, fun n => .integer n.toUInt64.toInt64⟩
instance : HostValue ρ Float := ⟨.float, .float⟩
instance : HostValue ρ Float32 := ⟨.float, fun x => .float x.toFloat⟩
instance : HostValue ρ String := ⟨.string, .string⟩
instance : HostValue ρ TimeSpan := ⟨.timeSpan, .timeSpan⟩
instance : HostValue ρ DateTime := ⟨.dateTime, .dateTime⟩

/-- What is missing reads as null. -/
instance [HostValue ρ α] : HostValue ρ (Option α) :=
  ⟨HostValue.type α, fun value => value.elim .null HostValue.toValue⟩

instance [HostValue ρ α] : HostValue ρ (List α) :=
  ⟨.sequence (HostValue.type α), fun items => .sequence (items.map HostValue.toValue)⟩

end Instances

/-- The schema of a bare value, which queries reach by `$` alone. -/
def Schema.scalar (ρ α : Type) [HostValue ρ α] : Schema ρ α :=
  ⟨HostValue.type α, HostValue.toValue⟩

/-! ## Host records -/

/-- One kind of host record among the records of type `ρ`. -/
structure RecordKind (ρ α : Type) where
  wrap : α → ρ
  unwrap? : ρ → Option α
  unwrap?_wrap : ∀ record, unwrap? (wrap record) = some record

namespace RecordKind

variable {ρ α β : Type}

/-- Reads a value from the records of this kind, and null from others. -/
def reader (kind : RecordKind ρ α) (read : α → Value ρ) (record : ρ) : Value ρ :=
  (kind.unwrap? record).elim .null read

/-- A member whose host type is converted without a schema. -/
def field [HostValue ρ β] (kind : RecordKind ρ α) (name : String) (read : α → β) : Member ρ :=
  ⟨name, HostValue.type β, kind.reader fun record => HostValue.toValue (read record)⟩

/-- A member that is converted by a schema of its own. -/
def nested (kind : RecordKind ρ α) (name : String) (schema : Schema ρ β) (read : α → β) :
    Member ρ :=
  ⟨name, schema.type, kind.reader fun record => schema.lift (read record)⟩

/-- A member that is a list whose elements are converted by a schema of their own. -/
def nestedList (kind : RecordKind ρ α) (name : String) (schema : Schema ρ β)
    (read : α → List β) : Member ρ :=
  ⟨name, .sequence schema.type,
    kind.reader fun record => .sequence ((read record).map schema.lift)⟩

/-- The schema of the records of this kind. -/
def schema (kind : RecordKind ρ α) (name : String) (members : List (Member ρ)) : Schema ρ α :=
  ⟨.record name members, fun record => .record (kind.wrap record)⟩

end RecordKind

end RecordQuery
