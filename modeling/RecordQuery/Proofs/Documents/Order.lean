import RecordQuery.Command.Run
import RecordQuery.Proofs.Documents.Inference
import RecordQuery.Proofs.Grammar.Parallel
import RecordQuery.Proofs.Typing.Reader
import RecordQuery.Proofs.Typing.Reordering

/-!
# The order of documents

The type of documents is inferred from them in order: the first value decides about the kind, and
members stand in the order in which their keys occur first.  Where the values at each path are of
one kind, null apart, and the keys of the objects there stay apart when case is forgotten
(`Document.Homogeneous`), the order leaks into the order of members and into nothing else
(`Document.reordered_inferType`).  The induction is along the recursion of inference, and it goes
through because what is one step further in homogeneous documents is homogeneous again.

No query sees the order of members, so the documents that are kept are the same in every order
(`Command.filterDocuments_perm`).
-/

set_option autoImplicit false

namespace RecordQuery

variable {ρ : Type}

/-! ## Homogeneous documents -/

namespace Document

open Json (Part Step)

/-- A value stands at an address in one of the documents, and the path is that of the address. -/
def StandsAt (documents : List Json) (path : List Part) (value : Json) : Prop :=
  ∃ document ∈ documents, ∃ address : List Step,
    address.map Step.part = path ∧ document.at? address = some value

/-- At each path all values but nulls are of one kind, and no two keys of objects are the same
without regard to case. -/
structure Homogeneous (documents : List Json) : Prop where
  kinds : ∀ {path : List Part} {value value' : Json}, StandsAt documents path value →
    StandsAt documents path value' → value ≠ .null → value' ≠ .null → value.kind = value'.kind
  keys : ∀ {path : List Part} {value value' : Json} {key key' : String},
    StandsAt documents path value → StandsAt documents path value' → key ∈ value.keys →
    key' ∈ value'.keys → Text.lowercase key = Text.lowercase key' → key = key'

section Paths

variable {documents documents' : List Json} {path : List Part} {value : Json} {key : String}

theorem standsAt_nil_iff : StandsAt documents [] value ↔ value ∈ documents := by
  constructor
  · rintro ⟨document, mem, address, here, found⟩
    rw [List.map_eq_nil_iff.1 here] at found
    cases found
    exact mem
  · exact fun mem => ⟨value, mem, [], rfl, rfl⟩

theorem standsAt_items_iff :
    StandsAt documents (.items :: path) value ↔ StandsAt (itemsOf documents) path value := by
  constructor
  · rintro ⟨document, mem, address, along, found⟩
    obtain ⟨step, steps, rfl, isItem, further⟩ := List.map_eq_cons_iff.1 along
    cases step with
    | key name => cases isItem
    | item index =>
        obtain ⟨item, leads, found⟩ := Option.bind_eq_some_iff.1 found
        exact ⟨item, List.mem_flatMap.2 ⟨document, mem, List.mem_of_getElem? leads⟩, steps,
          further, found⟩
  · rintro ⟨item, mem, steps, along, found⟩
    obtain ⟨document, mem, listed⟩ := List.mem_flatMap.1 mem
    obtain ⟨index, leads⟩ := List.mem_iff_getElem?.1 listed
    refine ⟨document, mem, .item index :: steps, by rw [List.map_cons, along]; rfl, ?_⟩
    exact Option.bind_eq_some_iff.2 ⟨item, leads, found⟩

theorem standsAt_key_iff :
    StandsAt documents (.key key :: path) value ↔ StandsAt (valuesAt key documents) path value := by
  constructor
  · rintro ⟨document, mem, address, along, found⟩
    obtain ⟨step, steps, rfl, isKey, further⟩ := List.map_eq_cons_iff.1 along
    cases step with
    | item index => cases isKey
    | key name =>
        cases isKey
        obtain ⟨part, leads, found⟩ := Option.bind_eq_some_iff.1 found
        exact ⟨part, List.mem_filterMap.2 ⟨document, mem, leads⟩, steps, further, found⟩
  · rintro ⟨part, mem, steps, along, found⟩
    obtain ⟨document, mem, leads⟩ := List.mem_filterMap.1 mem
    refine ⟨document, mem, .key key :: steps, by rw [List.map_cons, along]; rfl, ?_⟩
    exact Option.bind_eq_some_iff.2 ⟨part, leads, found⟩

/-- Documents are homogeneous if they are so at the top and in what is one step further. -/
theorem homogeneous_iff : Homogeneous documents ↔
    (∀ value ∈ documents, ∀ value' ∈ documents, value ≠ .null → value' ≠ .null →
      value.kind = value'.kind) ∧
    (∀ key ∈ keysOf documents, ∀ key' ∈ keysOf documents,
      Text.lowercase key = Text.lowercase key' → key = key') ∧
    Homogeneous (itemsOf documents) ∧ ∀ key, Homogeneous (valuesAt key documents) := by
  constructor
  · intro homogeneous
    refine ⟨?_, ?_, ⟨?_, ?_⟩, fun key => ⟨?_, ?_⟩⟩
    · intro value mem value' mem'
      exact homogeneous.kinds (standsAt_nil_iff.2 mem) (standsAt_nil_iff.2 mem')
    · intro key named key' named'
      obtain ⟨value, mem, held⟩ := mem_keysOf_iff.1 named
      obtain ⟨value', mem', held'⟩ := mem_keysOf_iff.1 named'
      exact homogeneous.keys (standsAt_nil_iff.2 mem) (standsAt_nil_iff.2 mem') held held'
    · exact fun stands stands' =>
        homogeneous.kinds (standsAt_items_iff.2 stands) (standsAt_items_iff.2 stands')
    · exact fun stands stands' =>
        homogeneous.keys (standsAt_items_iff.2 stands) (standsAt_items_iff.2 stands')
    · exact fun stands stands' =>
        homogeneous.kinds (standsAt_key_iff.2 stands) (standsAt_key_iff.2 stands')
    · exact fun stands stands' =>
        homogeneous.keys (standsAt_key_iff.2 stands) (standsAt_key_iff.2 stands')
  · rintro ⟨kinds, keys, items, values⟩
    constructor
    · intro path value value' stands stands'
      rcases path with _ | ⟨_ | _, path⟩
      · exact kinds value (standsAt_nil_iff.1 stands) value' (standsAt_nil_iff.1 stands')
      · exact (values _).kinds (standsAt_key_iff.1 stands) (standsAt_key_iff.1 stands')
      · exact items.kinds (standsAt_items_iff.1 stands) (standsAt_items_iff.1 stands')
    · intro path value value' key key' stands stands' held held'
      rcases path with _ | ⟨_ | _, path⟩
      · exact keys key (mem_keysOf_iff.2 ⟨value, standsAt_nil_iff.1 stands, held⟩) key'
          (mem_keysOf_iff.2 ⟨value', standsAt_nil_iff.1 stands', held'⟩)
      · exact (values _).keys (standsAt_key_iff.1 stands) (standsAt_key_iff.1 stands') held held'
      · exact items.keys (standsAt_items_iff.1 stands) (standsAt_items_iff.1 stands') held held'

/-- Documents without parts are homogeneous if they are of one kind. -/
theorem homogeneous_of_leaves
    (leaves : ∀ document ∈ documents, ∀ step, document.step? step = none)
    (kinds : ∀ value ∈ documents, ∀ value' ∈ documents, value ≠ .null → value' ≠ .null →
      value.kind = value'.kind) : Homogeneous documents := by
  have here : ∀ {path value}, StandsAt documents path value → value ∈ documents := by
    rintro path value ⟨document, mem, address, _, found⟩
    cases address with
    | nil =>
        cases found
        exact mem
    | cons step steps =>
        rw [Json.at?, leaves document mem step] at found
        cases found
  constructor
  · exact fun stands stands' => kinds _ (here stands) _ (here stands')
  · intro path value value' key key' stands _ held
    obtain ⟨part, leads⟩ := Json.mem_keys_iff.1 held
    cases (leaves value (here stands) (.key key)).symm.trans leads

theorem Homogeneous.perm (homogeneous : Homogeneous documents) (perm : documents.Perm documents') :
    Homogeneous documents' := by
  have stands : ∀ {path value}, StandsAt documents' path value → StandsAt documents path value :=
    fun ⟨document, mem, found⟩ => ⟨document, perm.mem_iff.2 mem, found⟩
  exact ⟨fun first second => homogeneous.kinds (stands first) (stands second),
    fun first second => homogeneous.keys (stands first) (stands second)⟩

end Paths

/-! ## Inference in another order -/

section Inference

variable {documents documents' : List Json}

theorem kindOf?_of_mem (homogeneous : Homogeneous documents) {document : Json}
    (mem : document ∈ documents) (present : document ≠ .null) :
    kindOf? documents = some document.kind := by
  have kinds := (homogeneous_iff.1 homogeneous).1
  cases decided : firstPresent? documents with
  | none =>
      have absent : kindOf? documents = none := by rw [kindOf?, decided]; rfl
      exact absurd (kindOf?_eq_none_iff.1 absent document mem) present
  | some first =>
      rw [kindOf?, decided]
      exact congrArg some
        (kinds first (List.mem_of_find?_eq_some decided) document mem (firstPresent_ne_null decided)
          present)

theorem kindOf?_perm (homogeneous : Homogeneous documents) (perm : documents.Perm documents') :
    kindOf? documents = kindOf? documents' := by
  cases decided : firstPresent? documents with
  | none =>
      have absent : kindOf? documents = none := by rw [kindOf?, decided]; rfl
      have nulls := kindOf?_eq_none_iff.1 absent
      rw [absent, kindOf?_eq_none_iff.2 fun document mem => nulls document (perm.mem_iff.2 mem)]
  | some first =>
      have mem := List.mem_of_find?_eq_some decided
      have present := firstPresent_ne_null decided
      rw [kindOf?_of_mem homogeneous mem present,
        kindOf?_of_mem (homogeneous.perm perm) (perm.mem_iff.1 mem) present]

theorem kindOf?_of_present (homogeneous : Homogeneous documents)
    (perm : documents.Perm documents') {first : Json}
    (present : firstPresent? documents = some first) : kindOf? documents' = some first.kind := by
  rw [← kindOf?_perm homogeneous perm, kindOf?, present]
  rfl

theorem numberType_perm (perm : documents.Perm documents') :
    (numberType documents : ValueType ρ) = numberType documents' := by
  rw [numberType, numberType, (perm.filter _).all_eq]

theorem textType_perm (perm : documents.Perm documents') :
    (textType documents : ValueType ρ) = textType documents' := by
  rw [textType, textType, (perm.filterMap _).all_eq]

theorem nodup_keysOf (documents : List Json) : (keysOf documents).Nodup := nodup_eraseDups _

theorem keysOf_perm (perm : documents.Perm documents') :
    (keysOf documents).Perm (keysOf documents') := by
  refine (List.perm_ext_iff_of_nodup (nodup_keysOf _) (nodup_keysOf _)).2 fun key => ?_
  rw [mem_keysOf_iff, mem_keysOf_iff]
  simp only [perm.mem_iff]

variable [HasDocuments ρ]

/-- A document is read in the same way as a type with its members in another order. -/
theorem toValue_eq_of_reordered {type type' : ValueType ρ} (reordered : type.Reordered type') :
    toValue type = toValue type' := by
  induction reordered with
  | scalar => rfl
  | sequence _ ih =>
      funext document
      cases document <;> simp only [toValue, ih]
  | record =>
      funext document
      cases document <;> rfl

theorem inferType_of_array (name : String) (decided : kindOf? documents = some .array) :
    (inferType name documents : ValueType ρ) = .sequence (inferType name (itemsOf documents)) := by
  rw [inferType_eq, decided, valuesOf_items decided]

theorem inferType_of_object (name : String) (decided : kindOf? documents = some .object) :
    (inferType name documents : ValueType ρ) = .record name ((keysOf documents).map fun key =>
      member key (inferType key (valuesAt key documents))) := by
  rw [inferType_eq, decided]
  simp only [valuesOf_key decided]

/-- Members for the same keys in another order, of types that differ in the order of members. -/
theorem reordered_record {keys keys' : List String} {types types' : String → ValueType ρ}
    (name : String) (once : keys.Nodup)
    (apart : ∀ key ∈ keys, ∀ key' ∈ keys, Text.lowercase key = Text.lowercase key' → key = key')
    (perm : keys.Perm keys') (reordered : ∀ key, (types key).Reordered (types' key)) :
    (ValueType.record name (keys.map fun key => member key (types key))).Reordered
      (.record name (keys'.map fun key => member key (types' key))) := by
  have pairs : ∀ {read read' : Member ρ},
      (read, read') ∈ (keys.map fun key => member key (types key)).zip
        (keys.map fun key => member key (types' key)) →
      ∃ key, read = member key (types key) ∧ read' = member key (types' key) := by
    intro read read' pair
    rw [List.zip_map'] at pair
    obtain ⟨key, _, same⟩ := List.mem_map.1 pair
    cases same
    exact ⟨key, rfl, rfl⟩
  refine .record (by rw [List.length_map, List.length_map]) ?_ ?_ ?_ ?_ (perm.map _)
  · intro read read' pair
    obtain ⟨key, rfl, rfl⟩ := pairs pair
    rfl
  · intro read read' pair
    obtain ⟨key, rfl, rfl⟩ := pairs pair
    simp only [member, toValue_eq_of_reordered (reordered key)]
  · intro read read' pair
    obtain ⟨key, rfl, rfl⟩ := pairs pair
    exact reordered key
  · rw [loweredNames, List.map_map]
    exact once.map_on fun key mem key' mem' => apart key mem key' mem'

/-- The type inferred from homogeneous documents in another order has its members in another
order, and is the same otherwise. -/
theorem reordered_inferType (name : String) (homogeneous : Homogeneous documents)
    (perm : documents.Perm documents') :
    (inferType name documents : ValueType ρ).Reordered (inferType name documents') := by
  fun_induction inferType (ρ := ρ) name documents generalizing documents' with
  | case1 name documents absent =>
      have decided : kindOf? documents' = none := by
        rw [← kindOf?_perm homogeneous perm, kindOf?, absent]
        rfl
      rw [inferType_eq, decided]
      exact .scalar .string
  | case2 name documents present => exact absurd rfl (firstPresent_ne_null present)
  | case3 name documents _ present =>
      rw [inferType_eq, kindOf?_of_present homogeneous perm present]
      exact .scalar .boolean
  | case4 name documents _ present | case5 name documents _ present =>
      rw [inferType_eq, kindOf?_of_present homogeneous perm present, numberType_perm perm]
      exact .scalar (scalar_numberType _)
  | case6 name documents _ present =>
      rw [inferType_eq, kindOf?_of_present homogeneous perm present, textType_perm perm]
      exact .scalar (scalar_textType _)
  | case7 name documents _ present ih =>
      obtain ⟨_, _, items, _⟩ := homogeneous_iff.1 homogeneous
      rw [inferType_of_array name (kindOf?_of_present homogeneous perm present)]
      exact .sequence (ih items (perm.flatMap_right _))
  | case8 name documents _ present ih =>
      obtain ⟨_, keys, _, values⟩ := homogeneous_iff.1 homogeneous
      rw [inferType_of_object name (kindOf?_of_present homogeneous perm present)]
      exact reordered_record name (nodup_keysOf _) keys (keysOf_perm perm)
        fun key => ih key (values key) (perm.filterMap _)

end Inference

end Document

/-! ## Commands -/

namespace Command

open Document (Homogeneous inferType valuesAt)

variable {now : DateTime} {query : String} {documents documents' : List Json}

/-- Over homogeneous documents in another order a query compiles to a predicate that holds of the
same documents, or it fails in the same way. -/
theorem compileFor_together (now : DateTime) (query : String)
    (homogeneous : Homogeneous documents) (perm : documents.Perm documents') :
    Together
      (fun fault fault' => ∃ error error' : CompileError, error.Alike query error' ∧
        fault = .query error ∧ fault' = .query error')
      (fun predicate predicate' => predicate.holds = predicate'.holds)
      (compileFor now query documents) (compileFor now query documents') := by
  have types : (inferType Document.rootName documents : ValueType Json).Reordered
      (inferType Document.rootName documents') :=
    Document.reordered_inferType Document.rootName homogeneous perm
  have runs : Together (CompileError.Alike query) (Expr.Similar ValueType.Reordered)
      (parse now (inferType Document.rootName documents) query)
      (parse now (inferType Document.rootName documents') query) :=
    parse_together (ValueType.Reordered.indistinct fun _ => True) types (.any rfl)
  refine .mapError (.map runs ?_) ?_
  · intro whole whole' wholes
    funext document
    simp only [Predicate.holds, Document.inferSchema, Document.schemaOf,
      Document.toValue_eq_of_reordered types, wholes.holdsOn_eq]
  · exact fun error error' alike => ⟨error, error', alike, rfl, rfl⟩

/-- The order of homogeneous documents does not matter.  Both commands succeed in both orders, and
the same documents are kept in the order in which they are given; or both commands fail in both
orders, and the errors are of the same kind and blame the same piece of the query. -/
theorem filterDocuments_perm {input? input'? : Option String}
    (given : Command.documents input? = .ok documents)
    (given' : Command.documents input'? = .ok documents') (homogeneous : Homogeneous documents)
    (perm : documents.Perm documents') :
    (∃ (keep : Json → Bool) (type type' : ValueType Json),
      filterDocuments now query input? = .ok (documents.filter keep) ∧
      filterDocuments now query input'? = .ok (documents'.filter keep) ∧
      checkDocuments now query input? = .ok type ∧
      checkDocuments now query input'? = .ok type') ∨
    ∃ error error' : CompileError, error.Alike query error' ∧
      filterDocuments now query input? = .error (.query error) ∧
      filterDocuments now query input'? = .error (.query error') ∧
      checkDocuments now query input? = .error (.query error) ∧
      checkDocuments now query input'? = .error (.query error') := by
  have runs := compileFor_together now query homogeneous perm
  unfold filterDocuments checkDocuments
  rw [given, given']
  simp only [bind, Except.bind]
  generalize compileFor now query documents = compiled at runs ⊢
  generalize compileFor now query documents' = compiled' at runs ⊢
  cases runs with
  | @ok predicate predicate' same =>
      refine .inl ⟨predicate.holds, _, _, rfl, ?_, rfl, rfl⟩
      rw [same]
      rfl
  | error same =>
      obtain ⟨error, error', alike, rfl, rfl⟩ := same
      exact .inr ⟨error, error', alike, rfl, rfl, rfl, rfl⟩

theorem filterDocuments_perm_missing_key :
    ∃ (now : DateTime) (input input' : String) (one two : Json) (keep : Json → Bool),
      one = .object [("a", .integer 1)] ∧ two = .object [("a", .null), ("b", .integer 2)] ∧
      Command.documents (some input) = .ok [one, two] ∧
      Command.documents (some input') = .ok [two, one] ∧
      Homogeneous [one, two] ∧ [one, two].Perm [two, one] ∧
      filterDocuments now "a == 1" (some input) = .ok ([one, two].filter keep) ∧
      filterDocuments now "a == 1" (some input') = .ok ([two, one].filter keep) ∧
      [one, two].filter keep = [one] := by
  have given : Command.documents (some "[\x7b\"a\":1\x7d,\x7b\"a\":null,\"b\":2\x7d]") =
      .ok [.object [("a", .integer 1)], .object [("a", .null), ("b", .integer 2)]] := by
    with_unfolding_all rfl
  have given' : Command.documents (some "[\x7b\"a\":null,\"b\":2\x7d,\x7b\"a\":1\x7d]") =
      .ok [.object [("a", .null), ("b", .integer 2)], .object [("a", .integer 1)]] := by
    with_unfolding_all rfl
  have kept : (filterDocuments ⟨⟨0, by decide⟩, .midnight⟩ "a == 1"
      (some "[\x7b\"a\":1\x7d,\x7b\"a\":null,\"b\":2\x7d]")).toOption.map (·.map Json.keys) =
      some [["a"]] := by decide +kernel
  have values : ∀ key, ∀ value ∈ valuesAt key
      [.object [("a", .integer 1)], .object [("a", .null), ("b", .integer 2)]],
      value = .null ∨ ∃ n, value = .integer n := by
    intro key value mem
    obtain ⟨document, mem, leads⟩ := List.mem_filterMap.1 mem
    rcases List.mem_pair.1 mem with rfl | rfl
    · obtain ⟨held, found, rfl⟩ := Option.map_eq_some_iff.1 leads
      rw [List.mem_singleton.1 (List.mem_of_find?_eq_some found)]
      exact .inr ⟨1, rfl⟩
    · obtain ⟨held, found, rfl⟩ := Option.map_eq_some_iff.1 leads
      rcases List.mem_pair.1 (List.mem_of_find?_eq_some found) with rfl | rfl
      · exact .inl rfl
      · exact .inr ⟨2, rfl⟩
  have homogeneous : Homogeneous
      [.object [("a", .integer 1)], .object [("a", .null), ("b", .integer 2)]] := by
    refine Document.homogeneous_iff.2 ⟨?_, by decide +kernel, ?_, fun key => ?_⟩
    · intro value mem value' mem' _ _
      rcases List.mem_pair.1 mem with rfl | rfl <;>
        rcases List.mem_pair.1 mem' with rfl | rfl <;> rfl
    · exact Document.homogeneous_of_leaves (fun _ mem => absurd mem List.not_mem_nil)
        fun _ mem => absurd mem List.not_mem_nil
    · refine Document.homogeneous_of_leaves ?_ ?_
      · intro value mem step
        rcases values key value mem with rfl | ⟨n, rfl⟩ <;> cases step <;> rfl
      · intro value mem value' mem'
        rcases values key value mem with rfl | ⟨n, rfl⟩ <;>
          rcases values key value' mem' with rfl | ⟨n', rfl⟩ <;> simp [Json.kind]
  have perm := List.Perm.swap (Json.object [("a", .null), ("b", .integer 2)])
    (Json.object [("a", .integer 1)]) []
  rcases filterDocuments_perm given given' homogeneous perm with
    ⟨keep, _, _, filters, filters', _⟩ | ⟨_, _, _, fails, _⟩
  · refine ⟨_, _, _, _, _, keep, rfl, rfl, given, given', homogeneous, perm, filters, filters', ?_⟩
    rw [filters] at kept
    cases first : keep (.object [("a", .integer 1)]) <;>
      cases second : keep (.object [("a", .null), ("b", .integer 2)]) <;>
      simp [first, second, Except.toOption, Json.keys] at kept ⊢
  · rw [fails] at kept
    cases kept

end Command

end RecordQuery
