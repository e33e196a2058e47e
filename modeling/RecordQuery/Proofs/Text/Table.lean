import RecordQuery.Proofs.Text.Pieces
import RecordQuery.Query.PatternTest

/-!
# The table of prefixes

The comparison with wildcards by a table that is reached by numbers: the cell in row `i` and column
`j` says whether the first `j` characters of the pattern take the first `i` characters of the text.
All cells are false at first.  The row of the empty text is filled on its own, and then one row
after another from left to right, each cell from the ones above it and before it.  The answer is the
last cell.  Every access to a cell or a character is checked, and one outside of the table or the
text would leave no answer (`Glob.tabulate?`).

There always is an answer, and it is the one of `Glob.accepts` (`Glob.tabulate?_eq`).  While the
table is filled, the cells that were filled hold what they should and the others are false
(`Glob.upTo`).  The latter matters for the first column: a text with characters in it is not taken
by the empty pattern, and these cells are never written.
-/

set_option autoImplicit false

namespace RecordQuery

/-! ## Tables -/

/-- Cells in rows and columns, numbered from zero. -/
structure Table where
  rows : Array (Array Bool)

namespace Table

/-- A table whose cells are all false. -/
def blank (rows columns : Nat) : Table := ⟨.replicate rows (.replicate columns false)⟩

/-- The cell in a row and a column, if there is one. -/
def cell? (table : Table) (i j : Nat) : Option Bool := do (← table.rows[i]?)[j]?

/-- The table with another cell in a row and a column, if there is a cell there. -/
def put? (table : Table) (i j : Nat) (holds : Bool) : Option Table := do
  let row ← table.rows[i]?
  if j < row.size then some ⟨table.rows.setIfInBounds i (row.setIfInBounds j holds)⟩ else none

/-- A table of so many rows and columns with these cells. -/
def Shows (rows columns : Nat) (cells : Nat → Nat → Bool) (table : Table) : Prop :=
  ∀ i j, table.cell? i j = if i < rows ∧ j < columns then some (cells i j) else none

variable {rows columns i j : Nat} {cells cells' : Nat → Nat → Bool} {table : Table}

theorem shows_blank (rows columns : Nat) :
    (blank rows columns).Shows rows columns fun _ _ => false := by
  intro i j
  simp only [cell?, blank, Array.getElem?_replicate]
  by_cases row : i < rows <;> by_cases column : j < columns <;> simp [row, column]

namespace Shows

theorem cell (shows_ : table.Shows rows columns cells) (row : i < rows) (column : j < columns) :
    table.cell? i j = some (cells i j) := by
  rw [shows_, if_pos ⟨row, column⟩]

theorem congr (shows_ : table.Shows rows columns cells)
    (same : ∀ i < rows, ∀ j < columns, cells i j = cells' i j) :
    table.Shows rows columns cells' := by
  intro i j
  rw [shows_]
  split
  · next inside => rw [same i inside.1 j inside.2]
  · rfl

/-- Another cell can be put wherever there is a cell, and nothing else changes. -/
theorem put (shows_ : table.Shows rows columns cells) (row : i < rows) (column : j < columns)
    (holds : Bool) :
    ∃ table', table.put? i j holds = some table' ∧
      table'.Shows rows columns fun i' j' => if i' = i ∧ j' = j then holds else cells i' j' := by
  have found := shows_.cell row column
  obtain ⟨line, lineAt, cellAt⟩ := Option.bind_eq_some_iff.1 found
  have inside : i < table.rows.size := (Array.getElem?_eq_some_iff.1 lineAt).1
  have inLine : j < line.size := (Array.getElem?_eq_some_iff.1 cellAt).1
  refine ⟨⟨table.rows.setIfInBounds i (line.setIfInBounds j holds)⟩, ?_, fun i' j' => ?_⟩
  · simp only [put?, lineAt, Option.bind_eq_bind, Option.bind_some, if_pos inLine]
  · have before := shows_ i' j'
    simp only [cell?, Option.bind_eq_bind, Array.getElem?_setIfInBounds] at before ⊢
    by_cases sameRow : i = i'
    · subst sameRow
      rw [lineAt, Option.bind_some] at before
      rw [if_pos rfl, if_pos inside, Option.bind_some, Array.getElem?_setIfInBounds]
      by_cases sameColumn : j = j'
      · subst sameColumn
        simp [row, column, inLine]
      · have other : ¬ (i = i ∧ j' = j) := fun both => sameColumn both.2.symm
        rw [if_neg sameColumn, if_neg other, before]
    · have other : ¬ (i' = i ∧ j' = j) := fun both => sameRow both.1.symm
      simp only [if_neg sameRow, if_neg other, before]

end Shows

end Table

/-- Steps that each succeed and lead from one stage to the next one succeed all together. -/
theorem foldlM_range'_induction {σ : Type} {step : σ → Nat → Option σ} (Stage : Nat → σ → Prop)
    {count : Nat} {start : σ} (starts : Stage 0 start)
    (steps : ∀ k < count, ∀ state, Stage k state →
      ∃ next, step state (k + 1) = some next ∧ Stage (k + 1) next) :
    ∃ last, (List.range' 1 count).foldlM step start = some last ∧ Stage count last := by
  induction count with
  | zero => exact ⟨start, rfl, starts⟩
  | succ count ih =>
      obtain ⟨middle, reached, stage⟩ := ih fun k below => steps k (Nat.lt_succ_of_lt below)
      obtain ⟨last, stepped, stage⟩ := steps count (Nat.lt_succ_self count) middle stage
      refine ⟨last, ?_, stage⟩
      rw [List.range'_concat, List.foldlM_append, reached, Nat.one_mul, Nat.add_comm 1 count]
      simp [stepped]

namespace Glob

/-! ## Filling the table -/

/-- Fills a cell of the first row. -/
def fillFirst (pattern : Array Char) (table : Table) (j : Nat) : Option Table := do
  if (← pattern[j - 1]?) = '*' then table.put? 0 j (← table.cell? 0 (j - 1)) else return table

/-- Fills a cell of a row from the cells above it and before it. -/
def fillCell (text pattern : Array Char) (i : Nat) (table : Table) (j : Nat) : Option Table := do
  let c ← pattern[j - 1]?
  let d ← text[i - 1]?
  let above ← table.cell? (i - 1) j
  let before ← table.cell? i (j - 1)
  let diagonal ← table.cell? (i - 1) (j - 1)
  table.put? i j (if c = '*' then above || before else (c == '?' || c == d) && diagonal)

/-- Fills a row from left to right. -/
def fillRow (text pattern : Array Char) (table : Table) (i : Nat) : Option Table :=
  (List.range' 1 pattern.size).foldlM (fillCell text pattern i) table

/-- The last cell of the table of a text and a pattern. -/
def tabulate? (text pattern : Array Char) : Option Bool := do
  let table ← (Table.blank (text.size + 1) (pattern.size + 1)).put? 0 0 true
  let table ← (List.range' 1 pattern.size).foldlM (fillFirst pattern) table
  let table ← (List.range' 1 text.size).foldlM (fillRow text pattern) table
  table.cell? text.size pattern.size

/-! ## Prefixes -/

section Prefixes

variable {c d : Char} {pattern text : List Char}

theorem accepts_concat_iff :
    accepts (pattern ++ [c]) text = true ↔
      ∃ front piece, text = front ++ piece ∧ accepts pattern front = true ∧ Takes c piece := by
  simp only [accepts_iff, cuts_concat_iff]

theorem accepts_concat_nil (c : Char) (pattern : List Char) :
    accepts (pattern ++ [c]) [] = (c == '*' && accepts pattern []) := by
  rw [Bool.eq_iff_iff, accepts_concat_iff, Bool.and_eq_true, beq_iff_eq]
  constructor
  · rintro ⟨front, piece, split, holds, takes⟩
    obtain ⟨rfl, rfl⟩ := List.append_eq_nil_iff.1 split.symm
    refine ⟨by_contra fun single => ?_, holds⟩
    obtain ⟨_, none, _⟩ := (takes_iff single).1 takes
    cases none
  · rintro ⟨rfl, holds⟩
    exact ⟨[], [], rfl, holds, takes_star _⟩

/-- A star behind a pattern takes the last character too, or nothing. -/
theorem accepts_concat_star (d : Char) (pattern text : List Char) :
    accepts (pattern ++ ['*']) (text ++ [d]) =
      (accepts (pattern ++ ['*']) text || accepts pattern (text ++ [d])) := by
  rw [Bool.eq_iff_iff, Bool.or_eq_true, accepts_concat_iff, accepts_concat_iff]
  simp only [takes_star, and_true]
  constructor
  · rintro ⟨front, piece, split, holds⟩
    rcases List.eq_nil_or_concat piece with rfl | ⟨piece, e, rfl⟩
    · rw [split, List.append_nil]
      exact .inr holds
    · rw [List.concat_eq_append, ← List.append_assoc] at split
      exact .inl ⟨front, piece, (List.append_inj' split rfl).1, holds⟩
  · rintro (⟨front, piece, rfl, holds⟩ | holds)
    · exact ⟨front, piece ++ [d], by rw [List.append_assoc], holds⟩
    · exact ⟨text ++ [d], [], by rw [List.append_nil], holds⟩

/-- What is no star takes the last character. -/
theorem accepts_concat (single : c ≠ '*') (d : Char) (pattern text : List Char) :
    accepts (pattern ++ [c]) (text ++ [d]) = ((c == '?' || c == d) && accepts pattern text) := by
  rw [Bool.eq_iff_iff, accepts_concat_iff, Bool.and_eq_true, Bool.or_eq_true, beq_iff_eq,
    beq_iff_eq]
  simp only [takes_iff single]
  constructor
  · rintro ⟨front, _, split, holds, e, rfl, fits⟩
    obtain ⟨rfl, last⟩ := List.append_inj' split rfl
    cases last
    exact ⟨fits, holds⟩
  · rintro ⟨fits, holds⟩
    exact ⟨text, [d], rfl, holds, d, rfl, fits⟩

end Prefixes

/-! ## The cells of the table -/

variable (text pattern : Array Char)

/-- What the cell in a row and a column should say. -/
def onPrefixes (i j : Nat) : Bool := accepts (pattern.toList.take j) (text.toList.take i)

/-- The cells when the rows before row `i` are filled, and row `i` up to column `j`. -/
def upTo (i j i' j' : Nat) : Bool :=
  decide (i' < i ∨ i' = i ∧ j' ≤ j) && onPrefixes text pattern i' j'

variable {text pattern}

theorem take_succ {letters : Array Char} {k : Nat} {c : Char} (at_ : letters[k]? = some c) :
    letters.toList.take (k + 1) = letters.toList.take k ++ [c] := by
  rw [← Array.getElem?_toList] at at_
  rw [List.take_add_one, at_, Option.toList_some]

theorem onPrefixes_zero_zero : onPrefixes text pattern 0 0 = true := by
  simp [onPrefixes, accepts_nil]

/-- The empty pattern takes no character. -/
theorem onPrefixes_succ_zero {i : Nat} (inside : i < text.size) :
    onPrefixes text pattern (i + 1) 0 = false := by
  obtain ⟨d, at_⟩ : ∃ d, text[i]? = some d := ⟨_, Array.getElem?_eq_getElem inside⟩
  rw [onPrefixes, take_succ at_, List.take_zero, accepts_nil]
  simp

theorem onPrefixes_zero_succ (text : Array Char) {j : Nat} {c : Char} (at_ : pattern[j]? = some c) :
    onPrefixes text pattern 0 (j + 1) = (c == '*' && onPrefixes text pattern 0 j) := by
  simp only [onPrefixes, take_succ at_, List.take_zero, accepts_concat_nil]

theorem onPrefixes_succ_succ {i j : Nat} {c d : Char} (textAt : text[i]? = some d)
    (patternAt : pattern[j]? = some c) :
    onPrefixes text pattern (i + 1) (j + 1) =
      if c = '*' then onPrefixes text pattern i (j + 1) || onPrefixes text pattern (i + 1) j
      else (c == '?' || c == d) && onPrefixes text pattern i j := by
  simp only [onPrefixes, take_succ textAt, take_succ patternAt]
  split
  · next star => rw [star, accepts_concat_star]
  · next single => rw [accepts_concat single]

theorem upTo_of_le {i j i' j' : Nat} (filled : i' < i ∨ i' = i ∧ j' ≤ j) :
    upTo text pattern i j i' j' = onPrefixes text pattern i' j' := by
  rw [upTo, decide_eq_true filled, Bool.true_and]

/-- One more cell is filled. -/
theorem upTo_succ (i j i' j' : Nat) :
    upTo text pattern i (j + 1) i' j' =
      if i' = i ∧ j' = j + 1 then onPrefixes text pattern i (j + 1)
      else upTo text pattern i j i' j' := by
  split
  · next here =>
    obtain ⟨rfl, rfl⟩ := here
    exact upTo_of_le (.inr ⟨rfl, Nat.le_refl _⟩)
  · next other =>
    have same : (i' < i ∨ i' = i ∧ j' ≤ j + 1) ↔ (i' < i ∨ i' = i ∧ j' ≤ j) := by omega
    simp only [upTo, same]

variable {table : Table} {i j : Nat}

/-- The table has the cells that it should have at a stage. -/
def Filled (text pattern : Array Char) (i j : Nat) (table : Table) : Prop :=
  table.Shows (text.size + 1) (pattern.size + 1) (upTo text pattern i j)

theorem exists_start (text pattern : Array Char) :
    ∃ table, (Table.blank (text.size + 1) (pattern.size + 1)).put? 0 0 true = some table ∧
      Filled text pattern 0 0 table := by
  obtain ⟨table, puts, shows_⟩ := (Table.shows_blank (text.size + 1) (pattern.size + 1)).put
    (Nat.succ_pos _) (Nat.succ_pos _) true
  refine ⟨table, puts, shows_.congr fun i _ j _ => ?_⟩
  split
  · next here =>
    obtain ⟨rfl, rfl⟩ := here
    rw [upTo_of_le (.inr ⟨rfl, Nat.le_refl _⟩), onPrefixes_zero_zero]
  · next other =>
    have unfilled : ¬ (i < 0 ∨ i = 0 ∧ j ≤ 0) := by omega
    rw [upTo, decide_eq_false unfilled, Bool.false_and]

theorem exists_fillFirst (filled : Filled text pattern 0 j table) (inside : j < pattern.size) :
    ∃ next, fillFirst pattern table (j + 1) = some next ∧ Filled text pattern 0 (j + 1) next := by
  obtain ⟨c, at_⟩ : ∃ c, pattern[j]? = some c := ⟨_, Array.getElem?_eq_getElem inside⟩
  have before := filled.cell (Nat.succ_pos _) (Nat.lt_succ_of_lt inside)
  rw [upTo_of_le (.inr ⟨rfl, Nat.le_refl _⟩)] at before
  have should := onPrefixes_zero_succ text at_
  simp only [fillFirst, Nat.add_sub_cancel, at_, before, Option.bind_eq_bind, Option.bind_some]
  by_cases star : c = '*'
  · obtain ⟨next, puts, shows_⟩ := filled.put (Nat.succ_pos _) (Nat.succ_lt_succ inside)
      (onPrefixes text pattern 0 j)
    rw [if_pos star]
    refine ⟨next, puts, shows_.congr fun i' _ j' _ => ?_⟩
    rw [upTo_succ, should, star]
    simp
  · rw [if_neg star]
    refine ⟨table, rfl, filled.congr fun i' _ j' _ => ?_⟩
    rw [upTo_succ, should]
    split
    · next here =>
      obtain ⟨rfl, rfl⟩ := here
      have unfilled : ¬ (0 < 0 ∨ 0 = 0 ∧ j + 1 ≤ j) := by omega
      rw [upTo, decide_eq_false unfilled, beq_eq_false_iff_ne.2 star, Bool.false_and,
        Bool.false_and]
    · rfl

theorem exists_fillCell (filled : Filled text pattern (i + 1) j table) (row : i < text.size)
    (column : j < pattern.size) :
    ∃ next, fillCell text pattern (i + 1) table (j + 1) = some next ∧
      Filled text pattern (i + 1) (j + 1) next := by
  obtain ⟨d, textAt⟩ : ∃ d, text[i]? = some d := ⟨_, Array.getElem?_eq_getElem row⟩
  obtain ⟨c, patternAt⟩ : ∃ c, pattern[j]? = some c := ⟨_, Array.getElem?_eq_getElem column⟩
  have above := filled.cell (Nat.lt_succ_of_lt row) (Nat.succ_lt_succ column)
  have before := filled.cell (Nat.succ_lt_succ row) (Nat.lt_succ_of_lt column)
  have diagonal := filled.cell (Nat.lt_succ_of_lt row) (Nat.lt_succ_of_lt column)
  rw [upTo_of_le (.inl (Nat.lt_succ_self i))] at above diagonal
  rw [upTo_of_le (.inr ⟨rfl, Nat.le_refl _⟩)] at before
  obtain ⟨next, puts, shows_⟩ := filled.put (Nat.succ_lt_succ row) (Nat.succ_lt_succ column)
    (onPrefixes text pattern (i + 1) (j + 1))
  refine ⟨next, ?_, shows_.congr fun i' _ j' _ => (upTo_succ (i + 1) j i' j').symm⟩
  rw [onPrefixes_succ_succ textAt patternAt] at puts
  simp only [fillCell, Nat.add_sub_cancel, textAt, patternAt, above, before, diagonal,
    Option.bind_eq_bind, Option.bind_some, puts]

/-- The first column of the next row is filled from the start. -/
theorem Filled.next_row (filled : Filled text pattern i pattern.size table) (row : i < text.size) :
    Filled text pattern (i + 1) 0 table := by
  refine filled.congr fun i' _ j' column => ?_
  by_cases first : i' = i + 1 ∧ j' = 0
  · obtain ⟨rfl, rfl⟩ := first
    rw [upTo, upTo, onPrefixes_succ_zero row, Bool.and_false, Bool.and_false]
  · have same : (i' < i ∨ i' = i ∧ j' ≤ pattern.size) ↔ (i' < i + 1 ∨ i' = i + 1 ∧ j' ≤ 0) := by
      omega
    simp only [upTo, same]

theorem exists_fillRow (filled : Filled text pattern i pattern.size table) (row : i < text.size) :
    ∃ next, fillRow text pattern table (i + 1) = some next ∧
      Filled text pattern (i + 1) pattern.size next :=
  foldlM_range'_induction (Filled text pattern (i + 1)) (filled.next_row row)
    fun _ column _ filled => exists_fillCell filled row column

/-- The table is filled without leaving it, and its last cell is the answer. -/
theorem tabulate?_eq (text pattern : Array Char) :
    tabulate? text pattern = some (accepts pattern.toList text.toList) := by
  obtain ⟨start, starts, filled⟩ := exists_start text pattern
  obtain ⟨first, reached, filled⟩ := foldlM_range'_induction (Filled text pattern 0)
    filled fun _ column _ filled => exists_fillFirst filled column
  obtain ⟨last, filledRows, filled⟩ :=
    foldlM_range'_induction (fun i => Filled text pattern i pattern.size) filled
      fun _ row _ filled => exists_fillRow filled row
  have whole : ∀ letters : Array Char, letters.toList.take letters.size = letters.toList :=
    fun letters => by rw [← Array.length_toList, List.take_length]
  have answer := filled.cell (Nat.lt_succ_self _) (Nat.lt_succ_self _)
  rw [upTo_of_le (.inr ⟨rfl, Nat.le_refl _⟩), onPrefixes, whole, whole] at answer
  simpa only [tabulate?, starts, reached, filledRows, Option.bind_eq_bind, Option.bind_some]
    using answer

end Glob

/-- A comparison with wildcards holds of the texts that can be cut into pieces for the characters of
the pattern, a missing text or pattern being empty.  It is the last cell of the table of prefixes,
and all numbers by which this table is reached while it is filled are inside of it. -/
theorem PatternTest.like_decides_cuts (text pattern : Option String) :
    (like text pattern = true ↔ Glob.Cuts (pattern.getD "").toList (text.getD "").toList) ∧
      Glob.tabulate? (text.getD "").toList.toArray (pattern.getD "").toList.toArray =
        some (like text pattern) :=
  ⟨Glob.accepts_iff, Glob.tabulate?_eq _ _⟩

end RecordQuery
