import RecordQuery.Proofs.Grammar.Parallel
import RecordQuery.Proofs.Typing.Reordering

/-!
# Types that grow

A record type changes in the course of time: its members are put into another order, or there is a
new one among them (`Revision`).  A query sees a new member only where one of its identifiers is
the beginning of the name.  Where none is, each identifier has the same candidates as before, so
the types are not told apart by the query (`ValueType.Evolved.indistinct`): it compiles over both
or fails over both with the same kind of error in the same place, and it matches the same inputs
(`parse_evolved`).

What an identifier stands for is kept also when it is written in more letters of the same name
(`ValueType.resolveMember_longer`): the candidates of the longer one are among those of the shorter
one, of which there is only one.
-/

set_option autoImplicit false

namespace RecordQuery

variable {ρ : Type}

/-! ## Identifiers of a query -/

namespace Cursor

/-- The tokens from a cursor on, up to the end or to the place where no token begins. -/
def front (cursor : Cursor) : List Token :=
  match cursor.pop with
  | .error _ => []
  | .ok popped =>
    if _ended : popped.token.kind = .endOfInput then [] else popped.token :: popped.next.front
termination_by cursor.rest.length
decreasing_by exact popped.shorter _ended

theorem front_of_pops {cursor last : Cursor} {tokens : List Token}
    (run : cursor.Pops tokens last) : cursor.front = tokens ++ last.front := by
  induction run with
  | none => rfl
  | more pops real _ ih =>
      rw [front, pops]
      simp only [dif_neg real, ih, List.cons_append]

end Cursor

/-- The identifiers of a query, up to the place where it cannot be cut into tokens. -/
def identifiers (source : String) : List String :=
  ((Cursor.start source).front.filter (·.kind = .identifier)).map (·.lexeme)

/-- No other names are asked for than the identifiers of a query. -/
theorem asks_identifiers (source : String) :
    (Cursor.start source).Asks source (· ∈ identifiers source) where
  source_eq := rfl
  named := by
    intro tokens last popped run pops isName
    have real : popped.token.kind ≠ .endOfInput := by rw [isName]; nofun
    have next : last.front = popped.token :: popped.next.front := by
      rw [Cursor.front, pops]
      exact dif_neg real
    refine List.mem_map.2 ⟨popped.token, List.mem_filter.2 ⟨?_, decide_eq_true isName⟩, rfl⟩
    rw [Cursor.front_of_pops run, next]
    exact List.mem_append_right _ List.mem_cons_self

/-! ## Members of another version -/

/-- None of the names is the beginning of the name of the member.  Case does not count. -/
def Field.Unasked (names : String → Prop) (member : Member ρ) : Prop :=
  ∀ name, names name → ¬ (Text.lowercase name).toList <+: (Text.lowercase member.name).toList

/-- The members of a record type and those of its next version. -/
inductive Revision (names : String → Prop) : List (Member ρ) → List (Member ρ) → Prop
  | kept {members : List (Member ρ)} : Revision names members members
  | reordered {members members' : List (Member ρ)} (distinct : (loweredNames members).Nodup)
      (perm : members.Perm members') : Revision names members members'
  | added {before after : List (Member ρ)} {extra : Member ρ} (unasked : extra.Unasked names) :
      Revision names (before ++ after) (before ++ extra :: after)

namespace ValueType

variable {names : String → Prop} {name : String}

/-- A member that is not asked for is no candidate. -/
theorem candidates_of_unasked {before after : List (Member ρ)} {extra : Member ρ}
    (unasked : extra.Unasked names) (named : names name) :
    candidates (before ++ extra :: after) name = candidates (before ++ after) name := by
  have begins :
      (Text.lowercase name).toList.isPrefixOf (Text.lowercase extra.name).toList = false :=
    Bool.eq_false_iff.2 fun fits => unasked name named (List.isPrefixOf_iff_prefix.1 fits)
  have differs : Text.lowercase extra.name ≠ Text.lowercase name :=
    fun same => unasked name named (same ▸ List.prefix_refl _)
  simp only [candidates, List.find?_append, List.find?_cons, List.filter_append, List.filter_cons,
    begins, decide_eq_false differs, Bool.false_eq_true, if_false]

/-- The names have the same candidates in both versions. -/
theorem candidates_revision {members members' : List (Member ρ)}
    (revision : Revision names members members') (named : names name) :
    (candidates members name).Perm (candidates members' name) := by
  cases revision with
  | kept => exact .refl _
  | reordered distinct perm => exact candidates_perm distinct perm name
  | added unasked => rw [candidates_of_unasked unasked named]

/-! ## Types of another version -/

/-- The second type is the next version of the first one: in any records inside, the members are
the same in another order, or there is a new one that none of the names asks for. -/
inductive Evolved (names : String → Prop) : ValueType ρ → ValueType ρ → Prop
  | scalar {type : ValueType ρ} (scalar : type.Scalar) : Evolved names type type
  | sequence {element element' : ValueType ρ} (elements : Evolved names element element') :
      Evolved names (.sequence element) (.sequence element')
  | record {owner : String} {members middle members' : List (Member ρ)}
      (count : members.length = middle.length)
      (same : ∀ {member member' : Member ρ}, (member, member') ∈ members.zip middle →
        member.name = member'.name ∧ member.read = member'.read)
      (types : ∀ {member member' : Member ρ}, (member, member') ∈ members.zip middle →
        Evolved names member.type member'.type)
      (revision : Revision names middle members') :
      Evolved names (.record owner members) (.record owner members')

/-- A query that asks for some names only does not tell the versions apart. -/
theorem Evolved.indistinct (names : String → Prop) :
    Indistinct names (Evolved names : ValueType ρ → ValueType ρ → Prop) where
  scalar := .scalar
  eq_of_scalar := by
    rintro _ _ (_ | _ | _) either
    · rfl
    · rcases either with scalar | scalar <;> cases scalar
    · rcases either with scalar | scalar <;> cases scalar
  element := by
    rintro _ _ (scalar | elements | _)
    · cases scalar <;> exact .none
    · exact .some elements
    · exact .none
  member := by
    rintro _ _ name (scalar | _ | @⟨_, members, middle, members', count, same, types, revision⟩)
      named
    · refine .refl _ (fun found resolves => ?_) fun _ _ => rfl
      have listed := mem_of_resolveMember resolves
      rw [scalar.members_eq_nil] at listed
      cases listed
    · exact .error rfl
    · have pairs : List.Forall₂ (fun member member' : Member ρ => member.name = member'.name ∧
          member.Similar (Evolved names) member') members middle :=
        List.forall₂_iff_zip.2 ⟨count, fun pair => ⟨(same pair).1, (same pair).2, types pair⟩⟩
      exact (resolveMember_together _ _ pairs (fun _ _ same => same.1)
        (candidates_revision revision named)).mono fun _ _ same => same.2

/-! ## Longer names -/

theorem resolveMember_eq_ok_iff {owner : ValueType ρ} {found : Member ρ} :
    owner.resolveMember name = .ok found ↔ candidates owner.members name = [found] := by
  unfold resolveMember
  rcases candidates owner.members name with _ | ⟨first, _ | ⟨second, others⟩⟩ <;> simp

/-- A name has one candidate if it is the first one with just this name, or if there is none such
and no other one begins with the name. -/
theorem candidates_eq_singleton_iff {members : List (Member ρ)} {found : Member ρ} :
    candidates members name = [found] ↔
      members.find? (fun member => Text.lowercase member.name = Text.lowercase name) = some found ∨
      members.find? (fun member => Text.lowercase member.name = Text.lowercase name) = none ∧
        members.filter (fun member => (Text.lowercase name).toList.isPrefixOf
          (Text.lowercase member.name).toList) = [found] := by
  unfold candidates
  simp only
  cases members.find? fun member => Text.lowercase member.name = Text.lowercase name with
  | none => simp
  | some first => simp

/-- The members that begin with a longer name are to be found among those that begin with the
shorter one. -/
theorem filter_longer {members : List (Member ρ)} {short long : List Char}
    (longer : short <+: long) :
    members.filter (fun member => long.isPrefixOf (Text.lowercase member.name).toList) =
      (members.filter fun member => short.isPrefixOf (Text.lowercase member.name).toList).filter
        fun member => long.isPrefixOf (Text.lowercase member.name).toList := by
  rw [List.filter_filter]
  refine List.filter_congr fun member _ => (Bool.and_eq_left_iff_imp.2 fun fits => ?_).symm
  exact List.isPrefixOf_iff_prefix.2 (longer.trans (List.isPrefixOf_iff_prefix.1 fits))

/-- A name that has one candidate keeps it when it is written in more letters of the candidate. -/
theorem candidates_longer {members : List (Member ρ)} {short long : String} {found : Member ρ}
    (only : candidates members short = [found])
    (longer : (Text.lowercase short).toList <+: (Text.lowercase long).toList)
    (begins : (Text.lowercase long).toList <+: (Text.lowercase found.name).toList) :
    candidates members long = [found] := by
  rcases candidates_eq_singleton_iff.1 only with first | ⟨_, alone⟩
  · -- The shorter name is the whole name already, so the longer one is the same.
    have whole : Text.lowercase found.name = Text.lowercase short := by
      simpa using List.find?_some first
    rw [whole] at begins
    have same : Text.lowercase long = Text.lowercase short :=
      String.toList_inj.1 (begins.eq_of_length (Nat.le_antisymm begins.length_le longer.length_le))
    rw [candidates, same]
    exact only
  · have alone' : members.filter (fun member =>
        (Text.lowercase long).toList.isPrefixOf (Text.lowercase member.name).toList) = [found] := by
      rw [filter_longer longer, alone, List.filter_cons,
        if_pos (List.isPrefixOf_iff_prefix.2 begins), List.filter_nil]
    refine candidates_eq_singleton_iff.2 ?_
    cases first : members.find? fun member => Text.lowercase member.name = Text.lowercase long with
    | none => exact .inr ⟨rfl, alone'⟩
    | some member =>
        have same : Text.lowercase member.name = Text.lowercase long := by
          simpa using List.find?_some first
        have among : member ∈ [found] := by
          rw [← alone']
          refine List.mem_filter.2 ⟨List.mem_of_find?_eq_some first, ?_⟩
          exact List.isPrefixOf_iff_prefix.2 (by rw [same])
        exact .inl (congrArg some (List.mem_singleton.1 among))

end ValueType

/-! ## Queries -/

open ValueType (Evolved)

/-- A query survives the evolution of the types that it is asked about.  Where a record type has its
members in another order, or a new one that no identifier of the query asks for, the query compiles
still and matches the same inputs, or it fails with the same kind of error in the same place.  And
what a name stands for is kept in all types when the name is written in more letters. -/
theorem parse_evolved [BEq ρ] (now : DateTime) {type type' : ValueType ρ} {source : String}
    (evolved : Evolved (· ∈ identifiers source) type type') :
    Together (CompileError.Alike source) (fun whole whole' => whole.holdsOn = whole'.holdsOn)
      (parse now type source) (parse now type' source) ∧
    ∀ (owner : ValueType ρ) (short long : String) (found : Member ρ),
      owner.resolveMember short = .ok found →
      (Text.lowercase short).toList <+: (Text.lowercase long).toList →
      (Text.lowercase long).toList <+: (Text.lowercase found.name).toList →
      owner.resolveMember long = .ok found := by
  constructor
  · exact (parse_together (Evolved.indistinct _) evolved (asks_identifiers source)).mono
      fun _ _ similar => similar.holdsOn_eq
  · intro owner short long found resolves longer begins
    rw [ValueType.resolveMember_eq_ok_iff] at resolves ⊢
    exact ValueType.candidates_longer resolves longer begins

/-- The members of the orders change places, and the items get a new member in front of the other
one. -/
theorem parse_evolved_orders :
    ∃ (now : DateTime) (source : String) (type type' : ValueType Nat)
      (number extra flag : Member Nat) (read : Nat → Value Nat) (whole whole' : Expr Nat),
      source = "items any \x7b n == 1 \x7d && f" ∧
      number.name = "Number" ∧ extra.name = "Extra" ∧ flag.name = "Flag" ∧
      type = .record "Order" [⟨"Items", .sequence (.record "Item" [number]), read⟩, flag] ∧
      type' = .record "Order" [flag, ⟨"Items", .sequence (.record "Item" [extra, number]), read⟩] ∧
      Evolved (· ∈ identifiers source) type type' ∧
      parse now type source = .ok whole ∧ parse now type' source = .ok whole' ∧
      whole.holdsOn (.record 0) = true ∧ whole'.holdsOn (.record 0) = true ∧
      type'.resolveMember "f" = .ok flag ∧ type'.resolveMember "fLA" = .ok flag := by
  let source := "items any \x7b n == 1 \x7d && f"
  let number : Member Nat := ⟨"Number", .integer, fun record => .integer (Int64.ofNat record)⟩
  let extra : Member Nat := ⟨"Extra", .string, fun _ => .null⟩
  let flag : Member Nat := ⟨"Flag", .boolean, fun _ => .boolean true⟩
  let items (members : List (Member Nat)) : Member Nat :=
    ⟨"Items", .sequence (.record "Item" members), fun record => .sequence [.record (record + 1)]⟩
  let now : DateTime := ⟨⟨0, by decide⟩, .midnight⟩
  have asked : identifiers source = ["items", "n", "f"] := by decide +kernel
  have unasked : extra.Unasked (· ∈ identifiers source) := by
    intro name named
    rw [asked] at named
    revert name
    decide +kernel
  have evolvedItem : Evolved (· ∈ identifiers source) (.record "Item" [number])
      (.record "Item" [extra, number]) := by
    have revision : Revision (· ∈ identifiers source) ([] ++ [number]) ([] ++ extra :: [number]) :=
      .added unasked
    refine .record rfl ?_ ?_ revision
    all_goals
      intro member member' pair
      cases List.mem_singleton.1 pair
    · exact ⟨rfl, rfl⟩
    · exact .scalar .integer
  have evolved : Evolved (· ∈ identifiers source) (.record "Order" [items [number], flag])
      (.record "Order" [flag, items [extra, number]]) := by
    have revision : Revision (· ∈ identifiers source) [items [extra, number], flag]
        [flag, items [extra, number]] := .reordered (by decide +kernel) (.swap _ _ _)
    have count : [items [number], flag].length = [items [extra, number], flag].length := rfl
    refine .record count ?_ ?_ revision
    all_goals
      intro member member' pair
      rcases List.mem_pair.1 pair with same | same <;> cases same
    · exact ⟨rfl, rfl⟩
    · exact ⟨rfl, rfl⟩
    · exact .sequence evolvedItem
    · exact .scalar .boolean
  have holds : (parse now (.record "Order" [items [number], flag]) source).toOption.map
      (·.holdsOn (.record 0)) = some true := by decide +kernel
  have short : (ValueType.record "Order" [flag, items [extra, number]]).resolveMember "f" =
      .ok flag := by cbv
  obtain ⟨runs, longer⟩ := parse_evolved now evolved
  have long := longer _ "f" "fLA" flag short (by decide +kernel) (by decide +kernel)
  rcases compiles : parse now (.record "Order" [items [number], flag]) source with _ | whole
  · rw [compiles] at holds
    cases holds
  · rw [compiles] at runs holds
    rcases compiles' : parse now (.record "Order" [flag, items [extra, number]]) source with
      _ | whole'
    · rw [compiles'] at runs
      cases runs
    · rw [compiles'] at runs
      cases runs with
      | ok same =>
          have here : whole.holdsOn (.record 0) = true := Option.some.inj holds
          exact ⟨now, source, _, _, number, extra, flag, _, whole, whole', rfl, rfl, rfl, rfl, rfl,
            rfl, evolved, compiles, compiles', here, same ▸ here, short, long⟩

end RecordQuery
