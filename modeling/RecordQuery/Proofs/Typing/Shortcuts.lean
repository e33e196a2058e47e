import RecordQuery.Proofs.Text.Lowering
import RecordQuery.Proofs.Typing.Evolution

/-!
# Beginnings of names

A member may be asked for by the beginning of its name.  Names are compared in lower case, and the
lower-case form of a name begins with that of its beginning, so the member is among the candidates;
it is the only one if no other name begins like this (`ValueType.resolveMember_beginning`).

The exception is a beginning that ends in a capital sigma within a word: alone the sigma is a final
one, and no name is found by this beginning.
-/

set_option autoImplicit false

namespace RecordQuery

variable {ρ : Type}

/-- The name of a member begins with a text, when both are in lower case. -/
def Field.beginsWith (member : Member ρ) (text : String) : Bool :=
  (Text.lowercase text).toList.isPrefixOf (Text.lowercase member.name).toList

/-- A text is cut behind a capital sigma that is a final one in the first part only. -/
def Text.CutsSigma (kept dropped : List Char) : Prop :=
  endsInSigma kept = true ∧ leadsWithCased dropped = true

theorem Text.not_cutsSigma {kept dropped : List Char} (ends : endsInSigma kept = false) :
    ¬ CutsSigma kept dropped := fun cut => Bool.eq_false_iff.1 ends cut.1

theorem Field.beginsWith_iff {member : Member ρ} {kept dropped : List Char}
    (split : member.name.toList = kept ++ dropped) :
    member.beginsWith (String.ofList kept) = true ↔ ¬ Text.CutsSigma kept dropped := by
  have name : member.name = String.ofList (kept ++ dropped) := by
    rw [← split, String.ofList_toList]
  rw [beginsWith, List.isPrefixOf_iff_prefix, name, Text.lowercase_prefix_iff, Text.CutsSigma]

namespace ValueType

variable {members before after : List (Member ρ)} {member : Member ρ} {text : String}
  {kept dropped : List Char} {owner : ValueType ρ}

/-- The candidates for a text are the first member that is named like this, or all members that
begin like this. -/
theorem candidates_cases (members : List (Member ρ)) (text : String) :
    (∃ first ∈ members, first.beginsWith text = true ∧ candidates members text = [first]) ∨
    candidates members text = members.filter (·.beginsWith text) := by
  unfold candidates
  simp only
  cases found : members.find? fun member => Text.lowercase member.name = Text.lowercase text with
  | none => exact .inr rfl
  | some first =>
      have same : Text.lowercase first.name = Text.lowercase text := by
        simpa using List.find?_some found
      refine .inl ⟨first, List.mem_of_find?_eq_some found, ?_, rfl⟩
      rw [Field.beginsWith, same]
      exact List.isPrefixOf_iff_prefix.2 (List.prefix_refl _)

/-- If one member alone begins with the text, it is the only candidate. -/
theorem candidates_of_alone (begins : member.beginsWith text = true)
    (alone : ∀ other ∈ before ++ after, other.beginsWith text = false) :
    candidates (before ++ member :: after) text = [member] := by
  rcases candidates_cases (before ++ member :: after) text with
    ⟨first, listed, fits, single⟩ | several
  · rw [single]
    rcases List.mem_append.1 listed with mem | mem
    · cases fits.symm.trans (alone first (List.mem_append_left _ mem))
    rcases List.mem_cons.1 mem with rfl | mem
    · rfl
    · cases fits.symm.trans (alone first (List.mem_append_right _ mem))
  · have none : ∀ {others : List (Member ρ)}, others ⊆ before ++ after →
        others.filter (·.beginsWith text) = [] := fun among =>
      List.filter_eq_nil_iff.2 fun other mem => by simp [alone other (among mem)]
    have first : (member :: after).filter (·.beginsWith text) =
        member :: after.filter (·.beginsWith text) := List.filter_cons_of_pos begins
    rw [several, List.filter_append, first,
      none (List.subset_append_left _ _), none (List.subset_append_right _ _), List.nil_append]

/-- If no member begins with the text, there is no candidate. -/
theorem candidates_of_none (none : ∀ other ∈ members, other.beginsWith text = false) :
    candidates members text = [] := by
  rcases candidates_cases members text with ⟨first, listed, fits, _⟩ | several
  · cases fits.symm.trans (none first listed)
  · rw [several]
    exact List.filter_eq_nil_iff.2 fun other mem => by simp [none other mem]

/-- A text that a listed member begins with is refused only if several members begin with it. -/
theorem resolveMember_eq_error {cause : Cause} (listed : member ∈ owner.members)
    (begins : member.beginsWith text = true) (fails : owner.resolveMember text = .error cause) :
    2 ≤ (owner.members.filter (·.beginsWith text)).length ∧
      cause = .ambiguousMember text ((owner.members.filter (·.beginsWith text)).map (·.name)) := by
  have among : member ∈ owner.members.filter (·.beginsWith text) :=
    List.mem_filter.2 ⟨listed, begins⟩
  unfold resolveMember at fails
  rcases candidates_cases owner.members text with ⟨first, _, _, single⟩ | several
  · rw [single] at fails
    cases fails
  · rw [several] at fails
    split at fails
    · next none => cases none ▸ among
    · cases fails
    · next none one =>
      cases fails
      refine ⟨?_, rfl⟩
      rcases filtered : owner.members.filter (·.beginsWith text) with _ | ⟨first, _ | ⟨second, _⟩⟩
      · exact absurd filtered none
      · exact absurd filtered (one first)
      · rw [filtered]
        exact Nat.le_add_left 2 _

/-- The beginning of a name, cut anywhere but behind a final sigma, stands for the member if no
other name begins like this.  It is an error only if several do, and then the member is one of
them.  A beginning that is cut behind a final sigma does not stand for the member; if no other name
begins like this, there is no such member. -/
theorem resolveMember_beginning (listed : owner.members = before ++ member :: after)
    (split : member.name.toList = kept ++ dropped) :
    (¬ Text.CutsSigma kept dropped →
      ((∀ other ∈ before ++ after, other.beginsWith (String.ofList kept) = false) →
        owner.resolveMember (String.ofList kept) = .ok member) ∧
      ∀ cause, owner.resolveMember (String.ofList kept) = .error cause →
        ∃ several : List (Member ρ),
          cause = .ambiguousMember (String.ofList kept) (several.map (·.name)) ∧
          several.Sublist owner.members ∧ 2 ≤ several.length ∧ member ∈ several ∧
          ∀ other ∈ several, other.beginsWith (String.ofList kept) = true) ∧
    (Text.CutsSigma kept dropped →
      (∀ other ∈ before ++ after, other.beginsWith (String.ofList kept) = false) →
        owner.resolveMember (String.ofList kept) =
          .error (.memberNotFound (String.ofList kept) owner.display)) := by
  have isMember : member ∈ owner.members := by simp [listed]
  constructor
  · intro whole
    have begins := (Field.beginsWith_iff split).2 whole
    constructor
    · intro alone
      rw [resolveMember_eq_ok_iff, listed, candidates_of_alone begins alone]
    · intro cause fails
      obtain ⟨count, rfl⟩ := resolveMember_eq_error isMember begins fails
      exact ⟨_, rfl, List.filter_sublist, count, List.mem_filter.2 ⟨isMember, begins⟩,
        fun other mem => (List.mem_filter.1 mem).2⟩
  · intro cut alone
    have missing : member.beginsWith (String.ofList kept) = false :=
      Bool.eq_false_iff.2 fun fits => (Field.beginsWith_iff split).1 fits cut
    have none : ∀ other ∈ owner.members, other.beginsWith (String.ofList kept) = false := by
      simp only [List.mem_append] at alone
      simp only [listed, List.mem_append, List.mem_cons]
      rintro other (mem | rfl | mem)
      · exact alone other (.inl mem)
      · exact missing
      · exact alone other (.inr mem)
    rw [resolveMember, candidates_of_none none]

/-- Two names with the same first letter, one with a sigma behind it: the letter stands for neither,
two letters of the other name stand for that, and no name begins with the letter and the sigma. -/
theorem resolveMember_beginning_letter :
    ∃ sigma beta : Member Nat, sigma.name = "ΑΣΑ" ∧ beta.name = "ΑΒΓ" ∧
      let owner := record "R" [sigma, beta]
      owner.resolveMember "Α" = .error (.ambiguousMember "Α" ["ΑΣΑ", "ΑΒΓ"]) ∧
      owner.resolveMember "ΑΒ" = .ok beta ∧
      owner.resolveMember "ΑΣ" = .error (.memberNotFound "ΑΣ" "R") := by
  let sigma : Member Nat := ⟨"ΑΣΑ", .integer, fun _ => .null⟩
  let beta : Member Nat := ⟨"ΑΒΓ", .integer, fun _ => .null⟩
  have first : (record "R" [sigma, beta]).members = [] ++ sigma :: [beta] := rfl
  have second : (record "R" [sigma, beta]).members = [sigma] ++ beta :: [] := rfl
  refine ⟨sigma, beta, rfl, rfl, ?_, ?_, ?_⟩
  · have split : "ΑΣΑ".toList = ['Α'] ++ ['Σ', 'Α'] := rfl
    have whole : ¬ Text.CutsSigma ['Α'] ['Σ', 'Α'] := Text.not_cutsSigma (by decide +kernel)
    have two : (candidates [sigma, beta] "Α").length = 2 := by decide +kernel
    cases fails : (record "R" [sigma, beta]).resolveMember "Α" with
    | ok found =>
      rw [show candidates [sigma, beta] "Α" = [found] from resolveMember_eq_ok_iff.1 fails] at two
      cases two
    | error cause =>
      obtain ⟨several, rfl, among, count, _⟩ :=
        ((resolveMember_beginning first split).1 whole).2 cause fails
      -- Of two members, at least two are candidates.
      rw [among.eq_of_length_le count]
      rfl
  · have split : "ΑΒΓ".toList = ['Α', 'Β'] ++ ['Γ'] := rfl
    have whole : ¬ Text.CutsSigma ['Α', 'Β'] ['Γ'] := Text.not_cutsSigma (by decide +kernel)
    have alone : ∀ other ∈ [sigma] ++ [], other.beginsWith "ΑΒ" = false := by
      rintro other listed
      obtain rfl := List.mem_singleton.1 listed
      decide +kernel
    exact ((resolveMember_beginning second split).1 whole).1 alone
  · have split : "ΑΣΑ".toList = ['Α', 'Σ'] ++ ['Α'] := rfl
    have cut : Text.CutsSigma ['Α', 'Σ'] ['Α'] := ⟨by decide +kernel, by decide +kernel⟩
    have alone : ∀ other ∈ [] ++ [beta], other.beginsWith "ΑΣ" = false := by
      rintro other listed
      obtain rfl := List.mem_singleton.1 listed
      decide +kernel
    exact (resolveMember_beginning first split).2 cut alone

/-- The first two letters are a name of their own that ends in a final sigma. -/
theorem resolveMember_final_sigma :
    ∃ (member : Member Nat) (token ending : Token),
      tokenize "ΑΣ" = .ok [token, ending] ∧ token.kind = .identifier ∧ token.lexeme ≠ "" ∧
      member.name = "ΑΣΑ" ∧ token.lexeme.toList <+: member.name.toList ∧
      (record "R" [member]).resolveMember token.lexeme = .error (.memberNotFound "ΑΣ" "R") := by
  have cuts : tokenize "ΑΣ" =
      .ok [⟨0, .identifier, "ΑΣ", none⟩, ⟨4, .endOfInput, "", none⟩] := by
    -- The table of the letters is long.
    set_option maxRecDepth 20000 in
    cbv
  have none : candidates [(⟨"ΑΣΑ", .integer, fun _ => .null⟩ : Member Nat)] "ΑΣ" = [] := by
    refine candidates_of_none fun other mem => ?_
    obtain rfl := List.mem_singleton.1 mem
    decide +kernel
  have begins : "ΑΣ".toList <+: "ΑΣΑ".toList := List.isPrefixOf_iff_prefix.1 (by decide +kernel)
  refine ⟨⟨"ΑΣΑ", .integer, fun _ => .null⟩, _, _, cuts, rfl, by simp, rfl, begins, ?_⟩
  simp only [resolveMember, members, none]
  rfl

end ValueType

end RecordQuery
