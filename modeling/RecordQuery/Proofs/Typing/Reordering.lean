import RecordQuery.Proofs.Typing.Likeness

/-!
# Types up to the order of their members

Two types are the same up to the order of members, at any depth, if their records list the same
members one way or the other (`ValueType.Reordered`).  Where the names in a record stay apart when
case is forgotten, a name stands for the same member in both orders: for the only one with just
this name, or for the only one that begins with it.  So no query tells such types apart
(`ValueType.Reordered.indistinct`).
-/

set_option autoImplicit false

namespace RecordQuery

variable {ρ : Type}

/-! ## Keyed lists -/

section Keyed

variable {α κ : Type} [DecidableEq κ] {key : α → κ} {items items' : List α}

theorem find?_key_eq_some_iff (distinct : (items.map key).Nodup) {wanted : κ} {item : α} :
    items.find? (key · = wanted) = some item ↔ item ∈ items ∧ key item = wanted := by
  constructor
  · intro found
    exact ⟨List.mem_of_find?_eq_some found, by simpa using List.find?_some found⟩
  · rintro ⟨mem, rfl⟩
    cases found : items.find? (key · = key item) with
    | none => exact absurd (decide_eq_true rfl) (List.find?_eq_none.1 found item mem)
    | some first =>
        have same : key first = key item := by simpa using List.find?_some found
        rw [List.inj_on_of_nodup_map distinct (List.mem_of_find?_eq_some found) mem same]

/-- Where keys are distinct, what is found for a key does not depend on the order. -/
theorem find?_key_perm (distinct : (items.map key).Nodup) (perm : items.Perm items') (wanted : κ) :
    items.find? (key · = wanted) = items'.find? (key · = wanted) := by
  have distinct' : (items'.map key).Nodup := (perm.map key).nodup_iff.1 distinct
  refine Option.ext fun item => ?_
  rw [find?_key_eq_some_iff distinct, find?_key_eq_some_iff distinct', perm.mem_iff]

end Keyed

/-! ## Members -/

/-- The names of members without regard to case. -/
def loweredNames (members : List (Member ρ)) : List String :=
  members.map fun member => Text.lowercase member.name

/-- Where tests agree on related items, the first items that pass are related. -/
theorem rel_find? {α β : Type} {related : α → β → Prop} {items : List α} {items' : List β}
    {test : α → Bool} {test' : β → Bool} (pairs : List.Forall₂ related items items')
    (same : ∀ item item', related item item' → test item = test' item') :
    Option.Rel related (items.find? test) (items'.find? test') := by
  induction pairs with
  | nil => exact .none
  | @cons item item' _ _ first _ ih =>
      rw [List.find?_cons, List.find?_cons, ← same item item' first]
      cases test item with
      | true => exact .some first
      | false => exact ih

namespace ValueType

variable {members middle members' : List (Member ρ)} {related : Member ρ → Member ρ → Prop}

/-- What a name may stand for depends on the names of the members only. -/
theorem forall₂_candidates (pairs : List.Forall₂ related members middle)
    (names : ∀ member member', related member member' → member.name = member'.name)
    (name : String) :
    List.Forall₂ related (candidates members name) (candidates middle name) := by
  have whole : Option.Rel related
      (members.find? fun member => Text.lowercase member.name = Text.lowercase name)
      (middle.find? fun member => Text.lowercase member.name = Text.lowercase name) :=
    rel_find? pairs fun member member' same => by rw [names member member' same]
  unfold candidates
  simp only
  generalize members.find? _ = first at whole ⊢
  generalize middle.find? _ = first' at whole ⊢
  cases whole with
  | some same => exact .cons same .nil
  | none =>
      refine List.rel_filter (fun member member' same => ?_) pairs
      simp only [names member member' same]

/-- The candidates for a name are the same in every order. -/
theorem candidates_perm (distinct : (loweredNames middle).Nodup) (perm : middle.Perm members')
    (name : String) : (candidates middle name).Perm (candidates members' name) := by
  rw [candidates, candidates, find?_key_perm distinct perm]
  split
  · exact .refl _
  · exact perm.filter _

/-- A name is resolved alike among members that are related one by one and have the same
candidates for it, in any order. -/
theorem resolveMember_together (owner owner' : String)
    (pairs : List.Forall₂ related members middle)
    (names : ∀ member member', related member member' → member.name = member'.name)
    {name : String} (reordered : (candidates middle name).Perm (candidates members' name)) :
    Together Cause.Alike related ((record owner members).resolveMember name)
      ((record owner' members').resolveMember name) := by
  have related := forall₂_candidates pairs names name
  unfold resolveMember
  simp only [ValueType.members]
  generalize candidates members name = found at related ⊢
  generalize candidates middle name = between at related reordered
  generalize candidates members' name = found' at reordered ⊢
  rcases related with _ | ⟨first, _ | ⟨second, others⟩⟩
  · rw [List.nil_perm.1 reordered]
    exact .error rfl
  · rw [← List.singleton_perm.1 reordered]
    exact .ok first
  · have several := reordered.length_eq
    rcases found' with _ | ⟨member, _ | ⟨member', members⟩⟩
    · cases several
    · cases several
    · exact .error rfl

theorem loweredNames_eq (pairs : List.Forall₂ related members middle)
    (names : ∀ member member', related member member' → member.name = member'.name) :
    loweredNames members = loweredNames middle :=
  map_eq_map pairs fun member member' same => by rw [names member member' same]

/-! ## Types -/

/-- The types differ in the order of members only, in any records inside.  No two names in such a
record are the same without regard to case. -/
inductive Reordered : ValueType ρ → ValueType ρ → Prop
  | scalar {type : ValueType ρ} (scalar : type.Scalar) : Reordered type type
  | sequence {element element' : ValueType ρ} (elements : Reordered element element') :
      Reordered (.sequence element) (.sequence element')
  | record {name : String} {members middle members' : List (Member ρ)}
      (count : members.length = middle.length)
      (names : ∀ {member member' : Member ρ}, (member, member') ∈ members.zip middle →
        member.name = member'.name)
      (readers : ∀ {member member' : Member ρ}, (member, member') ∈ members.zip middle →
        member.read = member'.read)
      (types : ∀ {member member' : Member ρ}, (member, member') ∈ members.zip middle →
        Reordered member.type member'.type)
      (distinct : (loweredNames members).Nodup) (perm : middle.Perm members') :
      Reordered (.record name members) (.record name members')

/-- No query tells types apart that differ in the order of members only. -/
theorem Reordered.indistinct (names : String → Prop) :
    Indistinct names (Reordered : ValueType ρ → ValueType ρ → Prop) where
  scalar := .scalar
  eq_of_scalar := by
    rintro _ _ (_ | _ | _) either
    · rfl
    · rcases either with scalar | scalar <;> cases scalar
    · rcases either with scalar | scalar <;> cases scalar
  element := by
    rintro _ _ (scalar | elements | _)
    · cases scalar <;> exact .none
    · exact .some elements
    · exact .none
  member := by
    rintro _ _ name (scalar | _ | @⟨_, members, middle, members', count, names, readers, types,
      distinct, perm⟩) _
    · refine .refl _ (fun found resolves => ?_) fun _ _ => rfl
      have listed := mem_of_resolveMember resolves
      rw [scalar.members_eq_nil] at listed
      cases listed
    · exact .error rfl
    · have pairs : List.Forall₂ (fun member member' : Member ρ => member.name = member'.name ∧
          member.Similar Reordered member') members middle :=
        List.forall₂_iff_zip.2 ⟨count, fun pair => ⟨names pair, readers pair, types pair⟩⟩
      have lowered := loweredNames_eq pairs fun _ _ same => same.1
      have reordered := candidates_perm (lowered ▸ distinct) perm name
      exact (resolveMember_together _ _ pairs (fun _ _ same => same.1) reordered).mono
        fun _ _ same => same.2

end ValueType

end RecordQuery
