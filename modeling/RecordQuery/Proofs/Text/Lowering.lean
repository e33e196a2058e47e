import Mathlib
import RecordQuery.Text.Lowercase

/-!
# Lower case of the beginning of a text

The lower-case form of a text begins with that of its beginning, with one exception.  If the
beginning ends in a capital sigma that would be a final one (`Text.endsInSigma`), and letters go on
behind it, then the sigma is not final in the whole text (`Text.lowercase_prefix_iff`).

What is behind a character counts only as far as it leads with a cased character or not.  So the
beginning is lowered with a truth value in place of the rest (`Text.lowerUpTo`).
-/

set_option autoImplicit false

namespace RecordQuery.Text

variable {before left right text : List Char} {c : Char} {cased cased' : Bool}

/-! ## What is behind a text -/

/-- What a text leads with, where something follows that leads with a cased character or not. -/
def leadsInto (cased : Bool) (text : List Char) : Bool :=
  ((text.dropWhile isCaseIgnorable).head?.map isCased).getD cased

theorem leadsInto_of_ignorable (ignorable : ∀ c ∈ text, isCaseIgnorable c = true) :
    leadsInto cased text = cased := by
  rw [leadsInto, List.dropWhile_eq_nil_iff.2 ignorable]
  rfl

theorem leadsInto_cons_of_not_ignorable (visible : isCaseIgnorable c = false) :
    leadsInto cased (c :: text) = isCased c := by
  rw [leadsInto, List.dropWhile_cons_of_neg (by simp [visible])]
  rfl

theorem leadsInto_append :
    leadsInto cased (left ++ right) = leadsInto (leadsInto cased right) left := by
  induction left with
  | nil => rfl
  | cons c left ih =>
      by_cases ignorable : isCaseIgnorable c = true
      · simp only [leadsInto, List.cons_append, List.dropWhile_cons_of_pos ignorable] at ih ⊢
        exact ih
      · rw [List.cons_append, leadsInto_cons_of_not_ignorable (by simpa using ignorable),
          leadsInto_cons_of_not_ignorable (by simpa using ignorable)]

/-- Lower case of one character, where something follows that leads with a cased character or
not. -/
def lowerAt (before : List Char) (cased : Bool) (c : Char) : List Char :=
  if c = 'Σ' then [if leadsWithCased before && !cased then 'ς' else 'σ']
  else if c = 'İ' then ['i', '\u0307']
  else [lowerChar c]

/-- Lower case of a text, where something follows that leads with a cased character or not. -/
def lowerUpTo (cased : Bool) (before : List Char) : List Char → List Char
  | [] => []
  | c :: text =>
    lowerAt before (leadsInto cased text) c ++ lowerUpTo cased (c :: before) text

theorem lowerUpTo_append : lowerUpTo cased before (left ++ right) =
    lowerUpTo (leadsInto cased right) before left ++
      lowerUpTo cased (left.reverse ++ before) right := by
  induction left generalizing before with
  | nil => rfl
  | cons c left ih =>
      simp only [List.cons_append, lowerUpTo, ih, leadsInto_append, List.reverse_cons,
        List.append_assoc, List.nil_append]

/-- Nothing follows a whole text. -/
theorem lowerFrom_eq : lowerFrom before text = lowerUpTo false before text := by
  induction text generalizing before with
  | nil => rfl
  | cons c text ih =>
      rw [lowerFrom, lowerUpTo, ih]
      rfl

/-- Every character gives as many characters whatever follows it. -/
theorem length_lowerUpTo :
    (lowerUpTo cased before text).length = (lowerUpTo cased' before text).length := by
  have single : ∀ {cased cased' : Bool} {before : List Char} {c : Char},
      (lowerAt before cased c).length = (lowerAt before cased' c).length := by
    intro cased cased' before c
    unfold lowerAt
    split
    · rfl
    · split <;> rfl
  induction text generalizing before with
  | nil => rfl
  | cons c text ih =>
      rw [lowerUpTo, lowerUpTo, List.length_append, List.length_append, ih]
      exact congrArg (· + _) single

/-! ## Final sigmas -/

theorem not_isCaseIgnorable_sigma : isCaseIgnorable 'Σ' = false := by decide +kernel

/-- Only a sigma depends on what follows it. -/
theorem lowerAt_of_ne (other : c ≠ 'Σ') : lowerAt before cased c = lowerAt before cased' c := by
  rw [lowerAt, lowerAt, if_neg other, if_neg other]

theorem lowerUpTo_of_ignorable (ignorable : ∀ c ∈ text, isCaseIgnorable c = true) :
    lowerUpTo cased before text = lowerUpTo cased' before text := by
  induction text generalizing before with
  | nil => rfl
  | cons c text ih =>
      have other : c ≠ 'Σ' := by
        rintro rfl
        cases (ignorable 'Σ' List.mem_cons_self).symm.trans not_isCaseIgnorable_sigma
      rw [lowerUpTo, lowerUpTo, lowerAt_of_ne other,
        ih fun c mem => ignorable c (List.mem_cons_of_mem _ mem)]

/-- Behind the last character that is not case-ignorable nothing depends on what follows. -/
theorem lowerUpTo_last (visible : isCaseIgnorable c = false)
    (ignorable : ∀ c ∈ text, isCaseIgnorable c = true) :
    lowerUpTo cased before (left ++ c :: text) =
      lowerUpTo (isCased c) before left ++
        (lowerAt (left.reverse ++ before) cased c ++
          lowerUpTo false (c :: (left.reverse ++ before)) text) := by
  rw [lowerUpTo_append, leadsInto_cons_of_not_ignorable visible, lowerUpTo,
    leadsInto_of_ignorable ignorable, lowerUpTo_of_ignorable ignorable]

/-- A text ends in a capital sigma that is a final one if nothing follows: behind it are
case-ignorable characters only, and a cased character is before it. -/
def endsInSigma (text : List Char) : Bool :=
  match text.reverse.dropWhile isCaseIgnorable with
  | 'Σ' :: before => leadsWithCased before
  | _ => false

/-- The last character that is not case-ignorable, if there is one. -/
theorem exists_last (text : List Char) :
    (∀ c ∈ text, isCaseIgnorable c = true) ∨
    ∃ front c ignored, text = front ++ c :: ignored ∧ isCaseIgnorable c = false ∧
      ∀ c ∈ ignored, isCaseIgnorable c = true := by
  have split := congrArg List.reverse
    (List.takeWhile_append_dropWhile (p := isCaseIgnorable) (l := text.reverse))
  rw [List.reverse_append, List.reverse_reverse] at split
  have run : ∀ c ∈ (text.reverse.takeWhile isCaseIgnorable).reverse, isCaseIgnorable c = true :=
    fun c mem => List.mem_takeWhile_imp (List.mem_reverse.1 mem)
  cases left : text.reverse.dropWhile isCaseIgnorable with
  | nil =>
      rw [left, List.reverse_nil, List.nil_append] at split
      exact .inl (split ▸ run)
  | cons c before =>
      rw [left, List.reverse_cons, List.append_assoc] at split
      refine .inr ⟨before.reverse, c, _, split.symm, ?_, run⟩
      have head := List.head_dropWhile_not isCaseIgnorable (left ▸ List.cons_ne_nil c before)
      simpa only [left, List.head_cons] using head

theorem endsInSigma_last (visible : isCaseIgnorable c = false)
    (ignorable : ∀ c ∈ text, isCaseIgnorable c = true) :
    endsInSigma (left ++ c :: text) = true ↔ c = 'Σ' ∧ leadsWithCased left.reverse = true := by
  have rest : (left ++ c :: text).reverse.dropWhile isCaseIgnorable = c :: left.reverse := by
    rw [List.reverse_append, List.reverse_cons, List.append_assoc,
      List.dropWhile_append_of_pos fun c mem => ignorable c (List.mem_reverse.1 mem),
      List.singleton_append, List.dropWhile_cons_of_neg (by simp [visible])]
  rw [endsInSigma, rest]
  split
  · next same =>
    obtain ⟨rfl, rfl⟩ := List.cons.inj same
    simp
  · next other =>
    simp only [Bool.false_eq_true, false_iff, not_and]
    rintro rfl
    exact absurd rfl (other _)

/-- What follows makes a difference to a text that ends in a final sigma, and to no other. -/
theorem lowerUpTo_true_eq_false_iff :
    lowerUpTo true [] text = lowerUpTo false [] text ↔ endsInSigma text = false := by
  rcases exists_last text with ignorable | ⟨front, c, ignored, rfl, visible, ignorable⟩
  · have none : endsInSigma text = false := by
      rw [endsInSigma, List.dropWhile_eq_nil_iff.2
        fun c mem => ignorable c (List.mem_reverse.1 mem)]
    exact iff_of_true (lowerUpTo_of_ignorable ignorable) none
  · have ends : endsInSigma (front ++ c :: ignored) = true ↔
        c = 'Σ' ∧ leadsWithCased front.reverse = true := endsInSigma_last visible ignorable
    rw [lowerUpTo_last visible ignorable, lowerUpTo_last visible ignorable,
      List.append_cancel_left_eq, List.append_cancel_right_eq, List.append_nil]
    by_cases sigma : c = 'Σ'
    · subst sigma
      rw [← Bool.not_eq_true, ends]
      simp only [lowerAt, true_and]
      cases leadsWithCased front.reverse <;> decide
    · refine iff_of_true (lowerAt_of_ne sigma) ?_
      rw [← Bool.not_eq_true, ends]
      exact fun both => sigma both.1

/-! ## Lower case and prefixes -/

/-- A text in lower case begins with its beginning in lower case, unless that ends in a final sigma
and letters go on behind it. -/
theorem lowercase_prefix_iff {kept dropped : List Char} :
    (lowercase (String.ofList kept)).toList <+:
        (lowercase (String.ofList (kept ++ dropped))).toList ↔
      ¬(endsInSigma kept = true ∧ leadsWithCased dropped = true) := by
  have alone : (lowercase (String.ofList kept)).toList = lowerUpTo false [] kept := by
    rw [lowercase, String.toList_ofList, String.toList_ofList, lowerFrom_eq]
  have whole : (lowercase (String.ofList (kept ++ dropped))).toList =
      lowerUpTo (leadsWithCased dropped) [] kept ++
        lowerUpTo false (kept.reverse ++ []) dropped := by
    rw [lowercase, String.toList_ofList, String.toList_ofList, lowerFrom_eq, lowerUpTo_append]
    rfl
  rw [alone, whole]
  cases leads : leadsWithCased dropped with
  | false => simp
  | true =>
      have same : lowerUpTo false [] kept <+: lowerUpTo true [] kept ++
          lowerUpTo false (kept.reverse ++ []) dropped ↔
          lowerUpTo true [] kept = lowerUpTo false [] kept := by
        constructor
        · intro begins
          have first := List.prefix_of_prefix_length_le begins (List.prefix_append _ _)
            (Nat.le_of_eq length_lowerUpTo)
          exact (first.eq_of_length length_lowerUpTo).symm
        · intro same
          rw [same]
          exact List.prefix_append _ _
      rw [same, lowerUpTo_true_eq_false_iff]
      simp

end RecordQuery.Text
