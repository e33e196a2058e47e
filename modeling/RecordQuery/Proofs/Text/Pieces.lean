import Mathlib.Data.List.Forall2
import RecordQuery.Text.Glob

/-!
# Texts cut into pieces

What a pattern with wildcards means: a text fits if it can be cut into consecutive pieces, one for
each character of the pattern, such that `*` takes any piece, `?` a piece of one character, and
every other character the piece that is just itself (`Glob.Cuts`).  Texts are compared character by
character, and case counts.

The comparison finds exactly these texts (`Glob.accepts_iff`).  Its rows are those of the suffixes
of the text, from the longest to the empty one: the row of a shorter text is the end of the row of a
longer one (`Glob.tail_row`).  So what a row holds at its front is determined by what shorter
patterns and shorter texts give (`Glob.accepts_star`, `Glob.accepts_cons`).
-/

set_option autoImplicit false

namespace RecordQuery.Glob

/-! ## Pieces -/

/-- What a character of a pattern takes of a text. -/
def Takes (c : Char) (piece : List Char) : Prop :=
  if c = '*' then True else if c = '?' then piece.length = 1 else piece = [c]

/-- The text can be cut into pieces that the characters of the pattern take, one after another. -/
def Cuts (pattern text : List Char) : Prop :=
  ∃ pieces : List (List Char), pieces.flatten = text ∧ List.Forall₂ Takes pattern pieces

variable {c d : Char} {pattern text piece : List Char}

theorem takes_star (piece : List Char) : Takes '*' piece := by simp [Takes]

/-- What is no star takes one character. -/
theorem takes_iff (single : c ≠ '*') : Takes c piece ↔ ∃ d, piece = [d] ∧ (c = '?' ∨ c = d) := by
  rw [Takes, if_neg single]
  split
  · next any => simp [any, List.length_eq_one_iff]
  · next other => simp [other]

theorem cuts_nil_iff : Cuts [] text ↔ text = [] := by
  constructor
  · rintro ⟨pieces, rfl, fits⟩
    cases fits
    rfl
  · rintro rfl
    exact ⟨[], rfl, .nil⟩

/-- The first character of the pattern takes the front of the text. -/
theorem cuts_cons_iff :
    Cuts (c :: pattern) text ↔
      ∃ piece rest, text = piece ++ rest ∧ Takes c piece ∧ Cuts pattern rest := by
  constructor
  · rintro ⟨pieces, rfl, fits⟩
    cases fits with
    | @cons _ piece _ pieces takes fits =>
        exact ⟨piece, pieces.flatten, List.flatten_cons, takes, pieces, rfl, fits⟩
  · rintro ⟨piece, _, rfl, takes, pieces, rfl, fits⟩
    exact ⟨piece :: pieces, List.flatten_cons, .cons takes fits⟩

/-- The last character of the pattern takes the end of the text. -/
theorem cuts_concat_iff :
    Cuts (pattern ++ [c]) text ↔
      ∃ front piece, text = front ++ piece ∧ Cuts pattern front ∧ Takes c piece := by
  induction pattern generalizing text with
  | nil =>
      simp only [List.nil_append, cuts_cons_iff, cuts_nil_iff]
      constructor
      · rintro ⟨piece, _, rfl, takes, rfl⟩
        exact ⟨[], piece, by simp, rfl, takes⟩
      · rintro ⟨_, piece, rfl, rfl, takes⟩
        exact ⟨piece, [], by simp, takes, rfl⟩
  | cons first pattern ih =>
      simp only [List.cons_append, cuts_cons_iff, ih]
      constructor
      · rintro ⟨piece, _, rfl, takes, front, last, rfl, cuts, takesLast⟩
        exact ⟨piece ++ front, last, by simp, ⟨piece, front, rfl, takes, cuts⟩, takesLast⟩
      · rintro ⟨_, last, rfl, ⟨piece, front, rfl, takes, cuts⟩, takesLast⟩
        exact ⟨piece, front ++ last, by simp, takes, front, last, rfl, cuts, takesLast⟩

/-! ## Rows -/

theorem length_orLater (cells : List Bool) : (orLater cells).length = cells.length := by
  induction cells with
  | nil => rfl
  | cons holds cells ih => simp [orLater, ih]

/-- A row has a cell for each suffix of the text. -/
theorem length_row (text pattern : List Char) : (row text pattern).length = text.length + 1 := by
  induction pattern with
  | nil => simp [row]
  | cons c pattern ih =>
      rw [row, extend]
      split
      · rw [length_orLater, ih]
      · simp [ih]

theorem row_eq_cons (text pattern : List Char) :
    row text pattern = accepts pattern text :: (row text pattern).tail := by
  have length := length_row text pattern
  cases cells : row text pattern with
  | nil => simp [cells] at length
  | cons holds cells' => simp [accepts, cells]

/-- The row of a shorter text is the end of the row of a longer one. -/
theorem tail_row (d : Char) (text pattern : List Char) :
    (row (d :: text) pattern).tail = row text pattern := by
  induction pattern with
  | nil => rfl
  | cons c pattern ih =>
      rw [row, row, extend, extend]
      split
      · rw [row_eq_cons, ih, orLater, List.tail_cons]
      · rw [ih, row_eq_cons text pattern, List.zipWith_cons_cons, List.cons_append, List.tail_cons,
          List.tail_cons]

theorem accepts_nil (text : List Char) : accepts [] text = text.isEmpty := by
  cases text <;> rfl

/-- A star takes nothing, or one character more than it takes of what follows that. -/
theorem accepts_star (text : List Char) :
    accepts ('*' :: pattern) text =
      (accepts pattern text || text.tail?.any (accepts ('*' :: pattern))) := by
  have later : ∀ text, row text ('*' :: pattern) = orLater (row text pattern) := fun _ => rfl
  cases text with
  | nil =>
      have single : (row [] pattern).tail = [] :=
        List.length_eq_zero_iff.1 (by rw [List.length_tail, length_row]; rfl)
      rw [accepts, later, row_eq_cons, single]
      simp [orLater]
  | cons d text =>
      rw [accepts, later, row_eq_cons, tail_row, orLater, ← later, List.headD_cons]
      simp [accepts]

/-- What is no star takes the first character. -/
theorem accepts_cons (single : c ≠ '*') (text : List Char) :
    accepts (c :: pattern) text =
      text.head?.any fun d => (c == '?' || c == d) && accepts pattern text.tail := by
  rw [accepts, row, extend, if_neg single]
  cases text with
  | nil => simp
  | cons d text => rw [tail_row, row_eq_cons]; simp

/-! ## Acceptance -/

/-- A star takes any front of the text. -/
theorem accepts_star_iff :
    accepts ('*' :: pattern) text = true ↔
      ∃ piece rest, text = piece ++ rest ∧ accepts pattern rest = true := by
  induction text with
  | nil => simp [accepts_star]
  | cons d text ih =>
      rw [accepts_star, Bool.or_eq_true, List.tail?_cons, Option.any_some, ih]
      constructor
      · rintro (holds | ⟨piece, rest, rfl, holds⟩)
        · exact ⟨[], d :: text, rfl, holds⟩
        · exact ⟨d :: piece, rest, rfl, holds⟩
      · rintro ⟨piece, rest, split, holds⟩
        cases piece with
        | nil => exact .inl (split ▸ holds)
        | cons e piece =>
            obtain ⟨rfl, rfl⟩ := List.cons_eq_cons.1 split
            exact .inr ⟨piece, rest, rfl, holds⟩

/-- A pattern accepts the texts that can be cut into pieces for its characters. -/
theorem accepts_iff : accepts pattern text = true ↔ Cuts pattern text := by
  induction pattern generalizing text with
  | nil => rw [accepts_nil, List.isEmpty_iff, cuts_nil_iff]
  | cons c pattern ih =>
      rw [cuts_cons_iff]
      by_cases star : c = '*'
      · subst star
        simp only [accepts_star_iff, ih, takes_star, true_and]
      · simp only [accepts_cons star, takes_iff star, ← ih]
        cases text with
        | nil => simp
        | cons d text =>
            rw [List.head?_cons, Option.any_some, Bool.and_eq_true, Bool.or_eq_true, beq_iff_eq,
              beq_iff_eq]
            constructor
            · rintro ⟨fits, holds⟩
              exact ⟨[d], text, rfl, ⟨d, rfl, fits⟩, holds⟩
            · rintro ⟨_, rest, split, ⟨e, rfl, fits⟩, holds⟩
              obtain ⟨rfl, rfl⟩ := List.cons_eq_cons.1 split
              exact ⟨fits, holds⟩

end RecordQuery.Glob
