import RecordQuery.Proofs.Documents.Path

/-!
# Inference loses nothing and invents nothing

The type of documents is inferred from all of them, and each of them is then read by this type.
These are two recursions, one over the documents together and one over the type and a document, and
a place where they disagree would silently read as null.  Here they are put together.

A document is read in full by reading every member of every record that is found on the way
(`Reading.ofValue`).  What this gives at an address is said by the values that the path of the
address leads to in all documents, and by nothing else (`Reading.ReadsAs`): `inferSchema_reads` is
the theorem.  The induction is along the address.  It goes through because a part of an inferred
type is itself inferred, from the values that are one step further (`Document.inferType_eq`).
-/

set_option autoImplicit false

namespace RecordQuery

open Document (firstPresent? inferType kindOf? keysOf numberType readable textType valuesAlong
  valuesOf)

variable {ρ : Type}

/-- A value with all members of all records in it. -/
inductive Reading where
  | null
  | boolean (value : Bool)
  | integer (value : Int64)
  | float (value : Float)
  | string (value : String)
  | timeSpan (value : TimeSpan)
  | dateTime (value : DateTime)
  | record (members : List (String × Reading))
  | sequence (items : List Reading)

namespace Reading

mutual

/-- Reads a value of a type in full, each member of a record through its reader. -/
def ofValue : ValueType ρ → Value ρ → Reading
  | .record _ members, .record host => .record (ofMembers members host)
  | _, .record _ => .record []
  | .sequence element, .sequence items => .sequence (items.map (ofValue element))
  | _, .sequence _ => .sequence []
  | _, .null => .null
  | _, .boolean value => .boolean value
  | _, .integer value => .integer value
  | _, .float value => .float value
  | _, .string value => .string value
  | _, .timeSpan value => .timeSpan value
  | _, .dateTime value => .dateTime value

/-- Reads members of a record in full. -/
def ofMembers : List (Member ρ) → ρ → List (String × Reading)
  | [], _ => []
  | ⟨name, type, read⟩ :: members, host =>
      (name, ofValue type (read host)) :: ofMembers members host

end

theorem ofValue_null (type : ValueType ρ) : ofValue type .null = .null := by
  cases type <;> rw [ofValue]

theorem ofMembers_eq_map (members : List (Member ρ)) (host : ρ) :
    ofMembers members host =
      members.map fun member => (member.name, .ofValue member.type (member.read host)) := by
  induction members with
  | nil => rw [ofMembers]; rfl
  | cons member members ih =>
      rw [ofMembers, List.map_cons, ih]

/-- The part of a reading that a step leads to. -/
def step? : Reading → Json.Step → Option Reading
  | .record members, .key key => (members.find? (·.1 = key)).map (·.2)
  | .sequence items, .item index => items[index]?
  | _, _ => none

/-- The reading at an address. -/
def at? (reading : Reading) : List Json.Step → Option Reading
  | [] => some reading
  | step :: steps => (reading.step? step).bind (·.at? steps)

/-- All numbers among the values are integers of 64 bits. -/
def Integral (values : List Json) : Prop :=
  ∀ value ∈ values, value.isNumber = true → ∃ n : Int64, value = .integer n.toInt

/-- All texts among the values are points in time. -/
def Dated (values : List Json) : Prop :=
  ∀ text, .string text ∈ values → ∃ point, DateTime.ofText text = .ok point

/-- What a value, or a missing one, has to be read as among all values at its path. -/
inductive ReadsAs (values : List Json) : Option Json → Reading → Prop
  | missing : ReadsAs values none .null
  | null : ReadsAs values (some .null) .null
  /-- The first value is of another kind. -/
  | other {value : Json} (other : kindOf? values ≠ some value.kind) :
      ReadsAs values (some value) .null
  | boolean {truth : Bool} (first : kindOf? values = some .boolean) :
      ReadsAs values (some (.bool truth)) (.boolean truth)
  | integer {n : Int64} (first : kindOf? values = some .number) (integral : Integral values) :
      ReadsAs values (some (.integer n.toInt)) (.integer n)
  | float {value : Json} {x : Float} (first : kindOf? values = some .number)
      (mixed : ¬ Integral values) (size : value.float? = some x) :
      ReadsAs values (some value) (.float x)
  | dateTime {text : String} {point : DateTime} (first : kindOf? values = some .string)
      (dated : Dated values) (written : DateTime.ofText text = .ok point) :
      ReadsAs values (some (.string text)) (.dateTime point)
  | string {text : String} (first : kindOf? values = some .string) (plain : ¬ Dated values) :
      ReadsAs values (some (.string text)) (.string text)
  | array {items : List Json} {readings : List Reading} (first : kindOf? values = some .array)
      (length : readings.length = items.length) :
      ReadsAs values (some (.array items)) (.sequence readings)
  /-- The members are the keys of all objects among the values, each once. -/
  | object {members : List (String × Json)} {readings : List (String × Reading)}
      (first : kindOf? values = some .object) (once : (readings.map (·.1)).Nodup)
      (union : ∀ key, key ∈ readings.map (·.1) ↔ ∃ value ∈ values, key ∈ value.keys) :
      ReadsAs values (some (.object members)) (.record readings)

/-- What is there reads as null exactly where its kind is not that of the first value. -/
theorem ReadsAs.eq_null_iff {values : List Json} {value : Json} {reading : Reading}
    (reads : ReadsAs values (some value) reading) (present : value ≠ .null) :
    reading = .null ↔ kindOf? values ≠ some value.kind := by
  cases reads with
  | null => exact absurd rfl present
  | other other => exact iff_of_true rfl other
  | float first _ size =>
      refine iff_of_false nofun ?_
      cases value <;> first | exact fun other => other first | cases size
  | boolean first | integer first | dateTime first | string first | array first | object first =>
      exact iff_of_false nofun fun other => other first

/-- What is read as something is read with all its parts. -/
theorem ReadsAs.exists_step? {values : List Json} {value part : Json} {reading : Reading}
    {step : Json.Step} (reads : ReadsAs values (some value) reading) (mem : value ∈ values)
    (shown : reading ≠ .null) (leads : value.step? step = some part) :
    ∃ inner, reading.step? step = some inner := by
  cases reads with
  | null | other => exact absurd rfl shown
  | float _ _ size => cases value <;> cases step <;>
      first | (cases size; done) | cases leads
  | boolean | integer | dateTime | string => cases step <;> cases leads
  | array first length =>
      cases step with
      | key key => cases leads
      | item index =>
          obtain ⟨inside, _⟩ := List.getElem?_eq_some_iff.1 leads
          exact ⟨_, List.getElem?_eq_getElem (length ▸ inside)⟩
  | @object members readings first once union =>
      cases step with
      | item index => cases leads
      | key key =>
          have named := (union key).2 ⟨_, mem, Json.mem_keys_iff.2 ⟨part, leads⟩⟩
          obtain ⟨found, held, same⟩ := List.mem_map.1 named
          cases first : readings.find? (·.1 = key) with
          | none => exact absurd (List.find?_eq_none.1 first found held) (by simp [same])
          | some member => exact ⟨member.2, by rw [step?, first]; rfl⟩

end Reading

/-! ## Inferred types -/

namespace Document

theorem nodup_eraseDups : ∀ keys : List String, keys.eraseDups.Nodup
  | [] => .nil
  | key :: keys => by
      rw [List.eraseDups_cons]
      refine List.nodup_cons.2 ⟨fun again => ?_, nodup_eraseDups _⟩
      simpa using List.mem_eraseDups.1 again
termination_by keys => keys.length
decreasing_by exact Nat.lt_succ_of_le (List.length_filter_le _ _)

theorem mem_keysOf_iff {documents : List Json} {key : String} :
    key ∈ keysOf documents ↔ ∃ document ∈ documents, key ∈ document.keys := by
  rw [keysOf, List.mem_eraseDups, List.mem_flatMap]

theorem int64?_eq_some_iff {value : Json} {n : Int64} :
    value.int64? = some n ↔ value = .integer n.toInt := by
  cases value with
  | integer size =>
      simp only [Json.int64?, Json.integer.injEq]
      constructor
      · intro found
        obtain ⟨inside, same⟩ := Option.ite_none_right_eq_some.1 found
        cases same
        exact (Int64.toInt_ofInt_of_le (by omega) (by omega)).symm
      · rintro rfl
        have := n.le_toInt
        have := n.toInt_lt
        rw [if_pos (by omega), Int64.ofInt_toInt]
  | _ => simp [Json.int64?]

theorem numberType_cases (documents : List Json) :
    (Reading.Integral documents ∧ (numberType documents : ValueType ρ) = .integer) ∨
      (¬ Reading.Integral documents ∧ (numberType documents : ValueType ρ) = .float) := by
  have integral : Reading.Integral documents ↔
      ((documents.filter Json.isNumber).all fun number => number.int64?.isSome) = true := by
    simp only [Reading.Integral, List.all_filter, List.all_eq_true, Bool.or_eq_true,
      Bool.not_eq_true', Option.isSome_iff_exists, int64?_eq_some_iff]
    refine forall₂_congr fun value _ => ?_
    cases value.isNumber <;> simp
  rw [integral, numberType]
  split
  · next all => exact .inl ⟨all, rfl⟩
  · next some => exact .inr ⟨some, rfl⟩

theorem textType_cases (documents : List Json) :
    (Reading.Dated documents ∧ (textType documents : ValueType ρ) = .dateTime) ∨
      (¬ Reading.Dated documents ∧ (textType documents : ValueType ρ) = .string) := by
  have dated : Reading.Dated documents ↔ (documents.filterMap Json.string?).all
      (fun text => (DateTime.ofText text).toBool) = true := by
    simp only [Reading.Dated, List.all_eq_true]
    refine forall_congr' fun text => ?_
    rw [show text ∈ documents.filterMap Json.string? ↔ .string text ∈ documents from ?_]
    · refine imp_congr_right fun _ => ?_
      cases DateTime.ofText text <;> simp [Except.toBool]
    · rw [List.mem_filterMap]
      constructor
      · rintro ⟨document, mem, same⟩
        cases document <;> first | (cases same; exact mem) | cases same
      · exact fun mem => ⟨_, mem, rfl⟩
  rw [dated, textType]
  split
  · next all => exact .inl ⟨all, rfl⟩
  · next some => exact .inr ⟨some, rfl⟩

section Local

variable [HasDocuments ρ] {documents : List Json} {value : Json}

/-- What is of another kind than the first value is read as null. -/
theorem toValue_of_other (name : String) (mem : value ∈ documents)
    (other : kindOf? documents ≠ some value.kind) :
    toValue (inferType name documents : ValueType ρ) value = .null := by
  rw [inferType_eq]
  split
  · next absent =>
      rw [kindOf?_eq_none_iff.1 absent value mem]
      rfl
  · next decided => exact absurd decided kindOf?_ne_null
  · next decided => cases value <;> first | rfl | exact absurd decided other
  · next decided =>
      rcases numberType_cases (ρ := ρ) documents with ⟨_, type⟩ | ⟨_, type⟩
      · rw [type]
        cases value <;> first | rfl | exact absurd decided other
      · rw [type]
        cases value <;> first | rfl | exact absurd decided other
  · next decided =>
      rcases textType_cases (ρ := ρ) documents with ⟨_, type⟩ | ⟨_, type⟩
      · rw [type]
        cases value <;> first | rfl | exact absurd decided other
      · rw [type]
        cases value <;> first | rfl | exact absurd decided other
  · next decided => cases value <;> first | rfl | exact absurd decided other
  · next decided => cases value <;> first | rfl | exact absurd decided other

theorem readsAs_number (mem : value ∈ documents) (number : value.isNumber = true)
    (first : kindOf? documents = some .number) :
    Reading.ReadsAs documents (some value)
      (.ofValue (numberType documents : ValueType ρ) (toValue (numberType documents) value)) := by
  rcases numberType_cases (ρ := ρ) documents with ⟨integral, type⟩ | ⟨mixed, type⟩
  · obtain ⟨n, rfl⟩ := integral value mem number
    have held : (Json.integer n.toInt).int64? = some n := int64?_eq_some_iff.2 rfl
    rw [type, toValue, held, Option.elim_some, Reading.ofValue]
    exact .integer first integral
  · have sized : ∃ x, value.float? = some x := by
      cases value <;> first | exact ⟨_, rfl⟩ | cases number
    obtain ⟨x, size⟩ := sized
    rw [type, toValue, size, Option.elim_some, Reading.ofValue]
    exact .float first mixed size

/-- What is read of a value, by the type inferred from it and others. -/
theorem readsAs (name : String) (mem : value ∈ documents) :
    Reading.ReadsAs documents (some value)
      (.ofValue (inferType name documents : ValueType ρ)
        (toValue (inferType name documents) value)) := by
  by_cases same : kindOf? documents = some value.kind
  · cases value with
    | null => exact absurd same kindOf?_ne_null
    | bool truth =>
        rw [inferType_eq, same]
        exact .boolean same
    | integer size | float size =>
        rw [inferType_eq, same]
        exact readsAs_number mem rfl same
    | string text =>
        rw [inferType_eq, same]
        rcases textType_cases (ρ := ρ) documents with ⟨dated, type⟩ | ⟨plain, type⟩
        · obtain ⟨point, written⟩ := dated text mem
          simp only [Json.kind, type, toValue, written, Except.toOption, Option.elim]
          rw [Reading.ofValue]
          exact .dateTime same dated written
        · simp only [Json.kind, type, toValue]
          rw [Reading.ofValue]
          exact .string same plain
    | array items =>
        rw [inferType_eq, same]
        simp only [Json.kind, toValue]
        rw [Reading.ofValue]
        exact .array same (by simp)
    | object members =>
        rw [inferType_eq, same]
        simp only [Json.kind, toValue]
        rw [Reading.ofValue]
        have names : ∀ host : ρ, (Reading.ofMembers ((keysOf documents).map fun key =>
            member key (inferType key (valuesOf documents (.key key)))) host).map (·.1) =
            keysOf documents := by
          intro host
          rw [Reading.ofMembers_eq_map, List.map_map, List.map_map]
          exact List.map_id _
        refine .object same ?_ fun key => ?_
        · rw [names]
          exact nodup_eraseDups _
        · rw [names, mem_keysOf_iff]
  · rw [toValue_of_other name mem same, Reading.ofValue_null]
    exact .other same

/-- A step of a reading goes along with a step in the document.  What it leads to is read by the
type inferred from the values that are one step further. -/
theorem step?_ofValue {name : String} {reading : Reading} {step : Json.Step}
    (mem : value ∈ documents)
    (leads : (Reading.ofValue (inferType name documents : ValueType ρ)
      (toValue (inferType name documents) value)).step? step = some reading) :
    ∃ name', value ∈ readable documents ∧
      reading = .ofValue (inferType name' (valuesOf documents step.part) : ValueType ρ)
        ((value.step? step).elim .null
          (toValue (inferType name' (valuesOf documents step.part)))) := by
  have same : kindOf? documents = some value.kind := by
    by_contra other
    rw [toValue_of_other name mem other, Reading.ofValue_null] at leads
    cases leads
  have readable : value ∈ readable documents := mem_readable_iff.2 ⟨mem, same⟩
  cases value with
  | array items =>
      rw [inferType_eq, same] at leads
      simp only [Json.kind, toValue] at leads
      rw [Reading.ofValue] at leads
      cases step with
      | key key => cases leads
      | item index =>
          simp only [Reading.step?, List.getElem?_map, Option.map_map, Option.map_eq_some_iff]
            at leads
          obtain ⟨item, found, rfl⟩ := leads
          refine ⟨name, readable, ?_⟩
          rw [show (Json.array items).step? (.item index) = some item from found]
          rfl
  | object members =>
      rw [inferType_eq, same] at leads
      simp only [Json.kind, toValue] at leads
      rw [Reading.ofValue] at leads
      cases step with
      | item index => cases leads
      | key key =>
          simp only [Reading.step?, Reading.ofMembers_eq_map, List.map_map, List.find?_map,
            Option.map_map, Option.map_eq_some_iff] at leads
          obtain ⟨found, first, rfl⟩ := leads
          obtain rfl : found = key := by simpa [member] using List.find?_some first
          refine ⟨found, readable, ?_⟩
          simp only [Function.comp_apply, member, RecordKind.reader, RecordKind.unwrap?_wrap,
            Option.elim_some]
          rfl
  | _ =>
      have reads := readsAs (ρ := ρ) name mem
      generalize Reading.ofValue _ _ = whole at reads leads
      cases reads <;> cases leads

/-- What is read at an address, by the type inferred from all values there. -/
theorem readsAs_at? (steps : List Json.Step) : ∀ {documents : List Json} {value : Json}
    {name : String} {found : Reading}, value ∈ documents →
    (Reading.ofValue (inferType name documents : ValueType ρ)
      (toValue (inferType name documents) value)).at? steps = some found →
    (∀ part, value.at? steps = some part →
      part ∈ valuesAlong documents (steps.map Json.Step.part)) ∧
    Reading.ReadsAs (valuesAlong documents (steps.map Json.Step.part)) (value.at? steps) found := by
  induction steps with
  | nil =>
      intro documents value name found mem read
      cases read
      refine ⟨fun part same => ?_, readsAs name mem⟩
      cases same
      exact mem
  | cons step steps ih =>
      intro documents value name found mem read
      obtain ⟨inner, leads, read⟩ := Option.bind_eq_some_iff.1 read
      obtain ⟨name', readable, rfl⟩ := step?_ofValue mem leads
      cases part : value.step? step with
      | some part =>
          rw [part] at read
          rw [Json.at?, part, Option.bind_some]
          exact ih (mem_valuesOf readable part) read
      | none =>
          rw [part, Option.elim_none, Reading.ofValue_null] at read
          rw [Json.at?, part, Option.bind_none]
          refine ⟨nofun, ?_⟩
          cases steps with
          | nil =>
              cases read
              exact .missing
          | cons => cases read

/-- What is there at an address is read, unless the reading of something around it is null. -/
theorem exists_at? (steps : List Json.Step) : ∀ {documents : List Json} {value part : Json}
    {name : String}, value ∈ documents → value.at? steps = some part →
    (∃ found, (Reading.ofValue (inferType name documents : ValueType ρ)
      (toValue (inferType name documents) value)).at? steps = some found) ∨
    ∃ before after, steps = before ++ after ∧ after ≠ [] ∧
      (Reading.ofValue (inferType name documents : ValueType ρ)
        (toValue (inferType name documents) value)).at? before = some .null := by
  induction steps with
  | nil =>
      intro documents value part name _ _
      exact .inl ⟨_, rfl⟩
  | cons step steps ih =>
      intro documents value part name mem there
      obtain ⟨next, leads, there⟩ := Option.bind_eq_some_iff.1 there
      have reads := readsAs (ρ := ρ) name mem
      by_cases shown : Reading.ofValue (inferType name documents : ValueType ρ)
          (toValue (inferType name documents) value) = .null
      · exact .inr ⟨[], step :: steps, rfl, List.cons_ne_nil _ _, congrArg some shown⟩
      · obtain ⟨inner, stepped⟩ := reads.exists_step? mem shown leads
        obtain ⟨name', readable, same⟩ := step?_ofValue mem stepped
        rw [leads, Option.elim_some] at same
        rcases ih (mem_valuesOf readable leads) there with
          ⟨found, read⟩ | ⟨before, after, rfl, nonempty, null⟩
        · refine .inl ⟨found, ?_⟩
          rw [Reading.at?, stepped, Option.bind_some, same]
          exact read
        · refine .inr ⟨step :: before, after, rfl, nonempty, ?_⟩
          rw [Reading.at?, stepped, Option.bind_some, same]
          exact null

end Local

end Document

/-! ## Schemas -/

namespace ValueType

/-- The type of what a step of a path leads to. -/
def part? : ValueType ρ → Json.Part → Option (ValueType ρ)
  | .record _ members, .key key => (members.find? (·.name = key)).map (·.type)
  | .sequence element, .items => some element
  | _, _ => none

/-- The type of what a path leads to. -/
def along? (type : ValueType ρ) : List Json.Part → Option (ValueType ρ)
  | [] => some type
  | part :: path => (type.part? part).bind (·.along? path)

end ValueType

namespace Document

variable [HasDocuments ρ]

/-- A part of an inferred type is inferred from the values that are one step further. -/
theorem part?_inferType {name : String} {documents : List Json} {part : Json.Part}
    {type : ValueType ρ} (leads : (inferType name documents).part? part = some type) :
    ∃ name', type = inferType name' (valuesOf documents part) := by
  rw [inferType_eq] at leads
  split at leads
  · cases leads
  · cases leads
  · cases leads
  · rcases numberType_cases (ρ := ρ) documents with ⟨_, same⟩ | ⟨_, same⟩ <;>
      (rw [same] at leads; cases leads)
  · rcases textType_cases (ρ := ρ) documents with ⟨_, same⟩ | ⟨_, same⟩ <;>
      (rw [same] at leads; cases leads)
  · cases part with
    | key key => cases leads
    | items =>
        cases leads
        exact ⟨name, rfl⟩
  · cases part with
    | items => cases leads
    | key key =>
        simp only [ValueType.part?, List.find?_map, Option.map_map, Option.map_eq_some_iff] at leads
        obtain ⟨found, first, rfl⟩ := leads
        obtain rfl : found = key := by simpa [member] using List.find?_some first
        exact ⟨found, rfl⟩

/-- The inferred type of what a path leads to is inferred from the values there. -/
theorem along?_inferType (path : List Json.Part) : ∀ {name : String} {documents : List Json}
    {type : ValueType ρ}, (inferType name documents).along? path = some type →
    ∃ name', type = inferType name' (valuesAlong documents path) := by
  induction path with
  | nil =>
      intro name documents type leads
      cases leads
      exact ⟨name, rfl⟩
  | cons part path ih =>
      intro name documents type leads
      obtain ⟨next, stepped, leads⟩ := Option.bind_eq_some_iff.1 leads
      obtain ⟨name', rfl⟩ := part?_inferType stepped
      exact ih leads

/-- The members of an inferred record are the keys of all objects, each once. -/
theorem members_inferType {name name' : String} {documents : List Json} {members : List (Member ρ)}
    (record : inferType name documents = .record name' members) :
    (members.map (·.name)).Nodup ∧
      ∀ key, key ∈ members.map (·.name) ↔ ∃ document ∈ documents, key ∈ document.keys := by
  have names : members.map (·.name) = keysOf documents := by
    rw [inferType_eq] at record
    split at record
    · cases record
    · cases record
    · cases record
    · rcases numberType_cases (ρ := ρ) documents with ⟨_, same⟩ | ⟨_, same⟩ <;>
        (rw [same] at record; cases record)
    · rcases textType_cases (ρ := ρ) documents with ⟨_, same⟩ | ⟨_, same⟩ <;>
        (rw [same] at record; cases record)
    · cases record
    · cases record
      rw [List.map_map]
      exact List.map_id _
  rw [names]
  exact ⟨nodup_eraseDups _, fun key => mem_keysOf_iff⟩

/-- Inference and reading lose nothing and invent nothing.  Whatever is read at an address is what
the value there has to be read as among all values at its path; a value reads as null exactly where
it is of another kind than the first one there.  Whatever a document has at an address is read,
unless it is inside of something that reads as null.  The members of an inferred record are the
keys of all objects at its path, each once. -/
theorem inferSchema_reads (documents : List Json) :
    let schema : Schema ρ Json := inferSchema documents
    (∀ document ∈ documents, ∀ (steps : List Json.Step) (found : Reading),
      (Reading.ofValue schema.type (schema.lift document)).at? steps = some found →
      Reading.ReadsAs (valuesAlong documents (steps.map Json.Step.part)) (document.at? steps)
        found ∧
      ∀ value, document.at? steps = some value →
        value ∈ valuesAlong documents (steps.map Json.Step.part) ∧
        (value ≠ .null → (found = .null ↔
          kindOf? (valuesAlong documents (steps.map Json.Step.part)) ≠ some value.kind))) ∧
    (∀ document ∈ documents, ∀ (steps : List Json.Step) (value : Json),
      document.at? steps = some value →
      (∃ found, (Reading.ofValue schema.type (schema.lift document)).at? steps = some found) ∨
      ∃ before after, steps = before ++ after ∧ after ≠ [] ∧
        (Reading.ofValue schema.type (schema.lift document)).at? before = some .null) ∧
    ∀ (path : List Json.Part) (name : String) (members : List (Member ρ)),
      schema.type.along? path = some (.record name members) →
      (members.map (·.name)).Nodup ∧
      ∀ key, key ∈ members.map (·.name) ↔
        ∃ value ∈ valuesAlong documents path, key ∈ value.keys := by
  refine ⟨?_, ?_, ?_⟩
  · intro document mem steps found read
    obtain ⟨among, reads⟩ := readsAs_at? steps mem read
    refine ⟨reads, fun value there => ⟨among value there, fun present => ?_⟩⟩
    rw [there] at reads
    exact reads.eq_null_iff present
  · intro document mem steps value there
    exact exists_at? steps mem there
  · intro path name members leads
    obtain ⟨name', inferred⟩ := along?_inferType path leads
    exact members_inferType inferred.symm

theorem inferSchema_reads_siblings :
    ∃ (documents : List Json) (document : Json) (schema : Schema Json Json) (found : Reading),
      documents = [.object [("a", .integer 1)],
        .object [("a", .bool true), ("b", .array [.null, .string "x"])]] ∧
      schema = inferSchema documents ∧ document ∈ documents ∧
      document.at? [.key "b", .item 1] = some (.string "x") ∧
      (Reading.ofValue schema.type (schema.lift document)).at? [.key "b", .item 1] = some found ∧
      Reading.ReadsAs [.null, .string "x"] (some (.string "x")) found ∧ found = .string "x" := by
  let documents : List Json := [.object [("a", .integer 1)],
    .object [("a", .bool true), ("b", .array [.null, .string "x"])]]
  have mem : .object [("a", .bool true), ("b", .array [.null, .string "x"])] ∈ documents :=
    List.mem_cons_of_mem _ List.mem_cons_self
  have read : (Reading.ofValue (inferSchema documents : Schema Json Json).type
      ((inferSchema documents : Schema Json Json).lift
        (.object [("a", .bool true), ("b", .array [.null, .string "x"])]))).at?
      [.key "b", .item 1] = some (.string "x") := by
    have inferred : (inferType rootName documents : ValueType Json) =
        .record "Document" [member "a" .integer, member "b" (.sequence .string)] := by cbv
    simp only [inferSchema, schemaOf, inferred]
    cbv
  have along : valuesAlong documents [.key "b", .items] = [.null, .string "x"] := by cbv
  have reads := ((inferSchema_reads documents).1 _ mem _ _ read).1
  exact ⟨documents, _, _, _, rfl, rfl, mem, rfl, read, along ▸ reads, rfl⟩

end Document

end RecordQuery
