import Mathlib
import RecordQuery.Text.Blank

/-!
# Blanks around a text

Readers of whole texts take the blanks at both ends away first (`Text.trim`).  What they look at is
the one part of the text that has blanks before it and behind it and none at its own ends: there is
such a part (`Text.exists_trim`), and whatever part of that form is found, it is the trimmed text
(`Text.trim_append`).
-/

set_option autoImplicit false

namespace RecordQuery.Text

/-- Blanks and nothing else. -/
def AllBlank (text : List Char) : Prop := ∀ c ∈ text, isBlank c = true

/-- A text with no blank at either end. -/
structure Tight (text : List Char) : Prop where
  first : ∀ c ∈ text.head?, isBlank c = false
  last : ∀ c ∈ text.getLast?, isBlank c = false

variable {before text after : List Char}

theorem allBlank_nil : AllBlank [] := by
  rintro _ ⟨⟩

theorem Tight.reverse (tight : Tight text) : Tight text.reverse where
  first c mem := tight.last c (by rwa [List.head?_reverse] at mem)
  last c mem := tight.first c (by rwa [List.getLast?_reverse] at mem)

theorem AllBlank.reverse (blank : AllBlank text) : AllBlank text.reverse :=
  fun c mem => blank c (List.mem_reverse.1 mem)

theorem Tight.trimStart_append (tight : Tight text) (some : text ≠ []) (blank : AllBlank before) :
    trimStart (before ++ text ++ after) = text ++ after := by
  rw [trimStart, List.append_assoc, List.dropWhile_append_of_pos blank]
  cases text with
  | nil => exact absurd rfl some
  | cons c more => exact List.dropWhile_cons_of_neg (by simp [tight.first c rfl])

/-- The part between the blanks is what is left by trimming. -/
theorem trim_append (blankBefore : AllBlank before) (blankAfter : AllBlank after)
    (tight : Tight text) : trim (before ++ text ++ after) = text := by
  by_cases some : text = []
  · subst some
    have left : trimStart (before ++ [] ++ after) = [] := by
      rw [trimStart, List.append_nil, List.dropWhile_append_of_pos blankBefore]
      exact List.dropWhile_eq_nil_iff.2 blankAfter
    rw [trim, left]
    rfl
  · have left : trimStart (after.reverse ++ text.reverse ++ []) = text.reverse ++ [] :=
      tight.reverse.trimStart_append (by simpa using some) blankAfter.reverse
    rw [List.append_nil, List.append_nil] at left
    rw [trim, tight.trimStart_append some blankBefore, List.reverse_append, left,
      List.reverse_reverse]

/-- A text without blanks at its ends stays as it is. -/
theorem Tight.trim (tight : Tight text) : Text.trim text = text := by
  have trimmed := trim_append allBlank_nil allBlank_nil tight
  rwa [List.nil_append, List.append_nil] at trimmed

/-- What stands between two texts does not matter to the ends of the whole. -/
theorem Tight.around {left right : List Char} (leftTight : Tight left) (leftSome : left ≠ [])
    (middle : List Char) (rightTight : Tight right) (rightSome : right ≠ []) :
    Tight (left ++ middle ++ right) where
  first := by
    rw [List.append_assoc, List.head?_append_of_ne_nil _ leftSome]
    exact leftTight.first
  last := by
    rw [List.getLast?_append_of_ne_nil _ rightSome]
    exact rightTight.last

theorem tight_of_visible (visible : ∀ c ∈ text, isBlank c = false) : Tight text where
  first c mem := visible c (List.mem_of_mem_head? mem)
  last c mem := visible c (List.mem_of_getLast? mem)

theorem exists_trimStart (text : List Char) :
    ∃ before, text = before ++ trimStart text ∧ AllBlank before :=
  ⟨text.takeWhile isBlank, List.takeWhile_append_dropWhile.symm, fun _ => List.mem_takeWhile_imp⟩

/-- Trimming takes blanks away at both ends. -/
theorem exists_trim (text : List Char) :
    ∃ before after, text = before ++ trim text ++ after ∧ AllBlank before ∧ AllBlank after := by
  obtain ⟨before, split, blankBefore⟩ := exists_trimStart text
  obtain ⟨after, split', blankAfter⟩ := exists_trimStart (trimStart text).reverse
  refine ⟨before, after.reverse, ?_, blankBefore, blankAfter.reverse⟩
  have kept : trimStart text = trim text ++ after.reverse := by
    rw [trim, ← List.reverse_append, ← split', List.reverse_reverse]
  rw [List.append_assoc, ← kept, ← split]

end RecordQuery.Text
