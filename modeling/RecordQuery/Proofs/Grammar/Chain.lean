import RecordQuery.Proofs.Typing.Tree

/-!
# Chains of operators

A chain is an operand followed by links: binary operators with their right operands.  A tree
splits a chain when its root is the rightmost of the loosest operators, and its two sides split
what is left and right of it (`Splits`).  Every chain is split by exactly one tree
(`exists_splits`, `Splits.unique`).

The parser does not look for the loosest operator.  It reads from left to right and joins what it
has.  So the first operand of a chain is taken here to be a tree itself, and one law suffices to
follow the parser (`Splits.absorb`): if all of some links bind tighter than the operator before
them and the next link does not, then joining the operator with the tree of these links first, and
splitting the rest from there, splits the whole chain.

A tree is built from the bottom up, the left side first, and fails where the operands of a node do
not fit (`SplitTree.HasMisfit`).
-/

set_option autoImplicit false

namespace RecordQuery

/-- An operand in the text of a query: where it starts, what it is, and the place behind it. -/
structure Operand (ρ : Type) where
  start : Cursor
  value : Expr ρ
  stop : Cursor

/-- A binary operator with its right operand. -/
structure Link (ρ : Type) where
  entry : BinaryEntry
  operand : Operand ρ

/-- How tightly the operator of a link binds. -/
def Link.precedence {ρ : Type} (link : Link ρ) : Int := link.entry.precedence

/-- The shape of an expression over binary operators. -/
inductive SplitTree (ρ : Type) where
  | operand (value : Expr ρ)
  | node (entry : BinaryEntry) (left right : SplitTree ρ)

variable {ρ : Type}

/-! ## The tree of a chain -/

/-- The last tree splits the chain of the first tree and the links, each time at the rightmost of
the loosest operators. -/
inductive Splits : SplitTree ρ → List (Link ρ) → SplitTree ρ → Prop
  | whole {first : SplitTree ρ} : Splits first [] first
  | node {first left right : SplitTree ρ} {before after : List (Link ρ)} {pivot : Link ρ}
      (loosest : ∀ link ∈ before, pivot.precedence ≤ link.precedence)
      (rightmost : ∀ link ∈ after, pivot.precedence < link.precedence)
      (left_splits : Splits first before left)
      (right_splits : Splits (.operand pivot.operand.value) after right) :
      Splits first (before ++ pivot :: after) (.node pivot.entry left right)

/-- A chain with a link has a rightmost loosest operator. -/
theorem exists_rightmost_loosest (link : Link ρ) (links : List (Link ρ)) :
    ∃ before pivot after, link :: links = before ++ pivot :: after ∧
      (∀ other ∈ before, pivot.precedence ≤ other.precedence) ∧
      ∀ other ∈ after, pivot.precedence < other.precedence := by
  induction links generalizing link with
  | nil => exact ⟨[], link, [], rfl, by simp, by simp⟩
  | cons next links ih =>
      obtain ⟨before, pivot, after, split, loosest, rightmost⟩ := ih next
      rcases Int.lt_or_le link.precedence pivot.precedence with tighter | looser
      · refine ⟨[], link, next :: links, rfl, by simp, ?_⟩
        rw [split]
        intro other mem
        rcases List.mem_append.1 mem with mem | mem
        · exact Int.lt_of_lt_of_le tighter (loosest other mem)
        · rcases List.mem_cons.1 mem with rfl | mem
          · exact tighter
          · exact Int.lt_trans tighter (rightmost other mem)
      · refine ⟨link :: before, pivot, after, by rw [split, List.cons_append], ?_, rightmost⟩
        exact List.forall_mem_cons.2 ⟨looser, loosest⟩

/-- There is only one such operator. -/
theorem rightmost_loosest_unique {before before' after after' : List (Link ρ)}
    {pivot pivot' : Link ρ} (same : before ++ pivot :: after = before' ++ pivot' :: after')
    (loosest : ∀ link ∈ before, pivot.precedence ≤ link.precedence)
    (rightmost : ∀ link ∈ after, pivot.precedence < link.precedence)
    (loosest' : ∀ link ∈ before', pivot'.precedence ≤ link.precedence)
    (rightmost' : ∀ link ∈ after', pivot'.precedence < link.precedence) :
    before = before' ∧ pivot = pivot' ∧ after = after' := by
  induction before generalizing before' with
  | nil =>
      cases before' with
      | nil =>
          obtain ⟨rfl, rfl⟩ := List.cons.inj same
          exact ⟨rfl, rfl, rfl⟩
      | cons link before' =>
          obtain ⟨rfl, rfl⟩ := List.cons.inj same
          have above := rightmost pivot' (List.mem_append_right _ List.mem_cons_self)
          have below := loosest' pivot List.mem_cons_self
          omega
  | cons link before ih =>
      cases before' with
      | nil =>
          obtain ⟨rfl, rfl⟩ := List.cons.inj same
          have above := rightmost' pivot (List.mem_append_right _ List.mem_cons_self)
          have below := loosest link List.mem_cons_self
          omega
      | cons link' before' =>
          obtain ⟨rfl, tail⟩ := List.cons.inj same
          obtain ⟨rfl, rfl, rfl⟩ := ih tail
            (fun other mem => loosest other (List.mem_cons_of_mem _ mem))
            (fun other mem => loosest' other (List.mem_cons_of_mem _ mem))
          exact ⟨rfl, rfl, rfl⟩

/-- Every chain is split by a tree. -/
theorem exists_splits (first : SplitTree ρ) (links : List (Link ρ)) :
    ∃ tree, Splits first links tree := by
  cases links with
  | nil => exact ⟨first, .whole⟩
  | cons link links =>
      obtain ⟨before, pivot, after, split, loosest, rightmost⟩ :=
        exists_rightmost_loosest link links
      have before_shorter : before.length < (link :: links).length := by simp [split]
      have after_shorter : after.length < (link :: links).length := by simp [split]; omega
      obtain ⟨left, left_splits⟩ := exists_splits first before
      obtain ⟨right, right_splits⟩ := exists_splits (.operand pivot.operand.value) after
      rw [split]
      exact ⟨_, .node loosest rightmost left_splits right_splits⟩
termination_by links.length
decreasing_by
  · exact before_shorter
  · exact after_shorter

namespace Splits

variable {first tree other : SplitTree ρ} {links : List (Link ρ)}

/-- How a chain is split: there is nothing to split, or it is split at an operator. -/
theorem cases_root (splits : Splits first links tree) :
    (links = [] ∧ tree = first) ∨
      ∃ before pivot after left right, links = before ++ pivot :: after ∧
        tree = .node pivot.entry left right ∧
        (∀ link ∈ before, pivot.precedence ≤ link.precedence) ∧
        (∀ link ∈ after, pivot.precedence < link.precedence) ∧
        Splits first before left ∧ Splits (.operand pivot.operand.value) after right := by
  cases splits with
  | whole => exact .inl ⟨rfl, rfl⟩
  | node loosest rightmost left_splits right_splits =>
      exact .inr ⟨_, _, _, _, _, rfl, rfl, loosest, rightmost, left_splits, right_splits⟩

/-- A chain is split by one tree only. -/
theorem unique (splits : Splits first links tree) (others : Splits first links other) :
    other = tree := by
  induction splits generalizing other with
  | whole =>
      rcases others.cases_root with ⟨_, same⟩ | ⟨before, pivot, after, _, _, split, _⟩
      · exact same
      · exact absurd split.symm (by simp)
  | @node _ _ _ before after pivot loosest rightmost _ _ ihLeft ihRight =>
      rcases others.cases_root with
        ⟨empty, _⟩ | ⟨before', pivot', after', left', right', split, rfl, loosest', rightmost',
          left_splits, right_splits⟩
      · exact absurd empty (by simp)
      · obtain ⟨rfl, rfl, rfl⟩ :=
          rightmost_loosest_unique split loosest rightmost loosest' rightmost'
        rw [ihLeft left_splits, ihRight right_splits]

/-- The operator of a link may be joined at once with the tree of the links that bind tighter, if
the next link does not bind tighter. -/
theorem absorb {joined : Link ρ} {inner rest : List (Link ρ)} {right : SplitTree ρ}
    (inside : Splits (.operand joined.operand.value) inner right)
    (tighter : ∀ link ∈ inner, joined.precedence < link.precedence)
    (looser : ∀ link ∈ rest.head?, link.precedence ≤ joined.precedence)
    (splits : Splits (.node joined.entry first right) rest tree) :
    Splits first (joined :: inner ++ rest) tree := by
  generalize start : SplitTree.node joined.entry first right = left at splits
  induction splits with
  | whole =>
      have root : Splits first ([] ++ joined :: inner) (.node joined.entry first right) :=
        .node (fun _ mem => absurd mem List.not_mem_nil) tighter .whole inside
      rw [List.append_nil, ← start]
      exact root
  | @node _ _ _ before after pivot loosest rightmost left_splits right_splits ihLeft _ =>
      have pivot_looser : pivot.precedence ≤ joined.precedence := by
        cases before with
        | nil => exact looser pivot rfl
        | cons link before =>
            exact Int.le_trans (loosest link List.mem_cons_self) (looser link rfl)
      have left_looser : ∀ link ∈ before.head?, link.precedence ≤ joined.precedence := by
        cases before with
        | nil => exact fun _ mem => absurd mem (by simp)
        | cons link before => exact fun other mem => looser other mem
      rw [← List.append_assoc]
      refine .node ?_ rightmost (ihLeft left_looser start) right_splits
      intro link mem
      rcases List.mem_append.1 mem with mem | mem
      · rcases List.mem_cons.1 mem with rfl | mem
        · exact pivot_looser
        · exact Int.le_trans pivot_looser (Int.le_of_lt (tighter link mem))
      · exact loosest link mem

end Splits

/-! ## Building a tree -/

namespace SplitTree

/-- Builds the expression of a tree, the left side of a node before the right one. -/
def build : SplitTree ρ → Except Cause (Expr ρ)
  | .operand value => .ok value
  | .node entry left right => do
      let leftValue ← left.build
      let rightValue ← right.build
      Expr.ofBinary entry leftValue rightValue

end SplitTree

/-- The literal that is the right operand of an operator on regular expressions is none. -/
def PatternOp.RejectsLiteral (op : PatternOp) (right : Expr ρ) : Prop :=
  op.isRegex = true ∧ ∃ written fault, right = .literal (.string written) ∧
    Regex.Pattern.ofChars written.toList = .error fault

/-- The operands do not fit the operator. -/
def BinaryEntry.Misfits (entry : BinaryEntry) (left right : Expr ρ) : Prop :=
  match entry.operator with
  | .value op => op.resultType? left.type right.type = none
  | .pattern op => ¬(left.type = .string ∧ right.type = .string) ∨ op.RejectsLiteral right

/-- The tree has a node whose sides can be built but do not fit its operator. -/
inductive SplitTree.HasMisfit : SplitTree ρ → Prop
  | here {entry : BinaryEntry} {left right : SplitTree ρ} {leftValue rightValue : Expr ρ}
      (left_builds : left.build = .ok leftValue) (right_builds : right.build = .ok rightValue)
      (misfits : entry.Misfits leftValue rightValue) : HasMisfit (.node entry left right)
  | left {entry : BinaryEntry} {left right : SplitTree ρ} (inside : HasMisfit left) :
      HasMisfit (.node entry left right)
  | right {entry : BinaryEntry} {left right : SplitTree ρ} (inside : HasMisfit right) :
      HasMisfit (.node entry left right)

theorem Expr.readRegex_eq_error_iff {op : PatternOp} {right : Expr ρ} :
    (∃ cause, readRegex op right = .error cause) ↔ op.RejectsLiteral right := by
  constructor
  · rintro ⟨cause, fails⟩
    unfold readRegex at fails
    split at fails
    · next isRegex literal =>
        split at fails
        · cases fails
        · next fault rejects =>
            refine ⟨isRegex, _, fault, ?_, rejects⟩
            cases right with
            | literal value => rw [Option.some.inj literal]
            | _ => cases literal
    · cases fails
  · rintro ⟨isRegex, written, fault, rfl, rejects⟩
    exact ⟨.invalidPattern fault, by simp [readRegex, isRegex, literal?, rejects]⟩

/-- A binary operator is not built exactly if its operands do not fit. -/
theorem Expr.ofBinary_eq_error_iff {entry : BinaryEntry} {left right : Expr ρ} :
    (∃ cause, ofBinary entry left right = .error cause) ↔ entry.Misfits left right := by
  unfold ofBinary BinaryEntry.Misfits
  cases entry.operator with
  | value op =>
      cases gives : op.resultType? left.type right.type with
      | none => simp [gives]
      | some type => simp [gives]
  | pattern op =>
      simp only [← Expr.readRegex_eq_error_iff]
      split
      · next texts =>
          simp only [Bool.and_eq_true, ValueType.isString_eq_true_iff] at texts
          cases readRegex op right with
          | ok regex? => simp [texts, Except.map]
          | error cause => simp [texts, Except.map]
      · next other =>
          simp only [Bool.and_eq_true, ValueType.isString_eq_true_iff] at other
          simp [other]

/-- A tree cannot be built exactly if a node of it does not fit. -/
theorem SplitTree.build_eq_error_iff {tree : SplitTree ρ} :
    (∃ cause, tree.build = .error cause) ↔ tree.HasMisfit := by
  induction tree with
  | operand value =>
      constructor
      · rintro ⟨_, fails⟩
        cases fails
      · intro misfit
        cases misfit
  | node entry left right ihLeft ihRight =>
      constructor
      · rintro ⟨cause, fails⟩
        cases left_builds : left.build with
        | error other => exact .left (ihLeft.1 ⟨other, left_builds⟩)
        | ok leftValue =>
            cases right_builds : right.build with
            | error other => exact .right (ihRight.1 ⟨other, right_builds⟩)
            | ok rightValue =>
                rw [build, left_builds, right_builds] at fails
                exact .here left_builds right_builds (Expr.ofBinary_eq_error_iff.1 ⟨cause, fails⟩)
      · intro misfit
        cases misfit with
        | here left_builds right_builds misfits =>
            obtain ⟨cause, fails⟩ := Expr.ofBinary_eq_error_iff.2 misfits
            exact ⟨cause, by rw [build, left_builds, right_builds]; exact fails⟩
        | left inside =>
            obtain ⟨cause, fails⟩ := ihLeft.2 inside
            exact ⟨cause, by rw [build, fails]; rfl⟩
        | right inside =>
            obtain ⟨cause, fails⟩ := ihRight.2 inside
            cases left_builds : left.build with
            | error other => exact ⟨other, by rw [build, left_builds]; rfl⟩
            | ok leftValue => exact ⟨cause, by rw [build, left_builds, fails]; rfl⟩

/-- The first tree of a chain stands leftmost in every tree, so its fault is found first. -/
theorem Splits.build_error {first tree : SplitTree ρ} {links : List (Link ρ)} {cause : Cause}
    (splits : Splits first links tree) (fails : first.build = .error cause) :
    tree.build = .error cause := by
  induction splits with
  | whole => exact fails
  | node _ _ _ _ ihLeft _ =>
      rw [SplitTree.build, ihLeft fails]
      rfl

end RecordQuery
