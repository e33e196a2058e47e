import RecordQuery.Proofs.Grammar.ParseTree
import RecordQuery.Proofs.Grammar.Precedence
import RecordQuery.Proofs.Scoping.Block

/-!
# Texts put together

Texts that compile in a scope make longer ones that do.  A text in parentheses has the tree of the
text (`Scope.Compiles.group`), for a parenthesis behind it leaves its words as they are.  As groups,
texts are operands of `!` (`Scope.Compiles.negation`) and of binary operators
(`Scope.Compiles.between`), whatever operators stand in them.  The text of a question compiles where
its source and its block do, with an operator behind the brace or without one
(`Scope.Compiles.block_between`, `Scope.Compiles.block`).
-/

set_option autoImplicit false

namespace RecordQuery

open Word (read? AtEnd)

/-! ## Texts of expressions -/

/-- The text in parentheses. -/
def Text.group (text : String) : String := "(" ++ text ++ ")"

/-- The text in parentheses behind a `!`. -/
def Text.negation (text : String) : String := "!" ++ group text

/-- The mark of an operator between two texts. -/
def Mark.between (mark : Mark) (left right : String) : String :=
  left ++ " " ++ mark.text ++ " " ++ right

theorem Text.toList_group_append (text : String) (more : List Char) :
    (group text).toList ++ more = '(' :: (text.toList ++ ')' :: more) := by
  simp [group]

theorem Text.toList_negation (text : String) :
    (negation text).toList = '!' :: ((group text).toList ++ []) := by
  simp [negation]

theorem Mark.toList_between (mark : Mark) (left right : String) :
    (mark.between left right).toList =
      left.toList ++ (' ' :: mark.text.toList ++ ' ' :: right.toList) := by
  simp [between]

/-! ## Words between texts -/

namespace Word

variable {tail : List Char}

/-- A parenthesis ends the word before it, and does not change it. -/
theorem keeps_of_shut (shut : Text.Shut tail) : Keeps tail := by
  intro text after word reads real
  have noDigit : Text.NoDigit [] := nofun
  rw [← List.append_nil text, ← List.append_nil after] at reads
  exact read?_cut shut.halted (.inl noDigit) reads real fun _ => .inl shut

theorem stops_groupClose (floor : Int) : groupClose.Stops floor :=
  (ends_of_mark rfl rfl (by decide) floor).1

theorem read?_mark (mark : Mark) (more : List Char) :
    read? (' ' :: mark.text.toList ++ ' ' :: more) =
      some (⟨.mark mark, mark.text, none⟩, ' ' :: more) := by
  cases mark <;> rfl

end Word

/-! ## Derivations -/

section Derivations

variable {ρ : Type} {now : DateTime} {scope : Scope ρ} {floor : Int} {text : String}
  {left right whole joined : Expr ρ} {more rest after : List Char} {next : Word}

theorem Reads.group_of_compiles (compiles : scope.Compiles now text whole) (more : List Char) :
    Reads now (.primary scope whole) ((Text.group text).toList ++ more) more := by
  obtain ⟨rest, derivation, ends⟩ := Scope.compiles_iff.1 compiles
  have closes := Word.read?_groupClose more
  have inside := derivation.append (Word.keeps_of_shut .closing) closes (by decide)
    fun _ _ => Word.stops_groupClose
  rw [Text.toList_group_append]
  exact .group (@Word.read?_groupOpen [] nofun _) rfl inside
    ((Word.read?_append_of_atEnd ends).trans closes) rfl

/-- A group is an expression before a word that nothing goes on with. -/
theorem Reads.group_expression (compiles : scope.Compiles now text whole)
    (follows : read? more = some (next, after)) (ends : next.Ends floor) :
    Reads now (.expression scope floor whole) ((Text.group text).toList ++ more) more :=
  .expression (.group_of_compiles compiles more) (.noSuffix follows ends.2) (.stop follows ends.1)

/-- An operator with an expression that reaches the end goes on with whatever stands before it. -/
theorem Reads.continuation_of_mark {mark : Mark} {entry : BinaryEntry}
    (joins : mark.binary? = some entry)
    (operand : Reads now (.expression scope entry.precedence right) text.toList rest)
    (ends : AtEnd rest) (builds : Expr.ofBinary entry left right = .ok joined) :
    Reads now (.continuation scope lowestPrecedence left joined)
      (' ' :: mark.text.toList ++ ' ' :: text.toList) rest := by
  obtain ⟨last, after, reads, isLast⟩ := ends
  have stops : last.Stops lowestPrecedence := by
    refine ⟨by rw [isLast]; nofun, fun mark entry isMark => ?_⟩
    cases isLast.symm.trans isMark
  exact .operator (Word.read?_mark mark _) rfl joins (Parser.lowestPrecedence_lt joins)
    (operand.expression_of_read?_eq (Word.read?_blank _)) builds (.stop reads stops)

end Derivations

/-! ## Texts that compile -/

namespace Scope.Compiles

variable {ρ : Type} {now : DateTime} {scope : Scope ρ} {element : ValueType ρ}
  {text query left right : String} {source predicate whole leftTree rightTree joined : Expr ρ}

theorem typed (compiles : scope.Compiles now text whole) : whole.Typed scope.types := by
  obtain ⟨_, derivation, _⟩ := compiles_iff.1 compiles
  exact Parser.typed_of_reads derivation

theorem group_at_end (compiles : scope.Compiles now text whole) (floor : Int) :
    Reads now (.expression scope floor whole) (Text.group text).toList [] := by
  have ends : Word.ending.Ends floor := ⟨Word.stops_ending floor, nofun⟩
  have expression := Reads.group_expression compiles Word.read?_nil ends
  rwa [List.append_nil] at expression

/-- A text in parentheses has the tree of the text. -/
theorem group (compiles : scope.Compiles now text whole) :
    scope.Compiles now (Text.group text) whole :=
  compiles_iff.2 ⟨[], compiles.group_at_end lowestPrecedence, Word.atEnd_nil⟩

theorem negation (compiles : scope.Compiles now text whole) (boolean : whole.type = .boolean) :
    scope.Compiles now (Text.negation text) (.unary .not whole) := by
  have builds : Expr.ofUnary .not "!" whole = .ok (.unary .not whole) :=
    Expr.ofUnary_eq_ok_iff.2 ⟨by rw [boolean]; rfl, rfl⟩
  have operand := compiles.group_at_end lowestPrecedence
  refine compiles_iff.2 ⟨[], ?_, Word.atEnd_nil⟩
  rw [Text.toList_negation, Text.toList_group_append]
  rw [← List.append_nil (Text.group text).toList, Text.toList_group_append] at operand
  exact .expression (.unary rfl rfl rfl operand builds) (.noSuffix Word.read?_nil nofun)
    (.stop Word.read?_nil (Word.stops_ending _))

/-- Two texts in parentheses are the operands of an operator between them. -/
theorem between {mark : Mark} {entry : BinaryEntry} (joins : mark.binary? = some entry)
    (left_compiles : scope.Compiles now left leftTree)
    (right_compiles : scope.Compiles now right rightTree)
    (builds : Expr.ofBinary entry leftTree rightTree = .ok joined) :
    scope.Compiles now (mark.between (Text.group left) (Text.group right)) joined := by
  have behind : Reads now (.continuation scope lowestPrecedence leftTree joined) _ [] :=
    .continuation_of_mark joins (right_compiles.group_at_end entry.precedence) Word.atEnd_nil builds
  have reads := Word.read?_mark mark (Text.group right).toList
  have noDot : mark ≠ .dot := by
    rintro rfl
    cases joins
  refine compiles_iff.2 ⟨[], ?_, Word.atEnd_nil⟩
  rw [mark.toList_between]
  exact .expression (.group_of_compiles left_compiles _)
    (.noSuffix reads fun isDot => noDot (TokenKind.mark.inj isDot)) behind

/-- A source and an expression for its elements make a question, and an operator behind its brace
has the question as its left operand. -/
theorem block_between {mark : Mark} {entry : BinaryEntry} {rest : List Char}
    (compiles : scope.Compiles now text source) (sequence : source.type = .sequence element)
    (inside : (scope.enter element).Compiles now query predicate)
    (boolean : predicate.type = .boolean) (quantifier : Quantifier)
    (joins : mark.binary? = some entry)
    (operand : Reads now (.expression scope entry.precedence rightTree) right.toList rest)
    (ends : AtEnd rest)
    (builds : Expr.ofBinary entry (.nested quantifier (scope.depth + 1) source predicate)
      rightTree = .ok joined) :
    scope.Compiles now (mark.between (quantifier.block text query) right) joined := by
  obtain ⟨_, derivation, atEnd⟩ := compiles_iff.1 compiles
  refine compiles_iff.2 ⟨rest, ?_, ends⟩
  rw [mark.toList_between]
  exact derivation.block_then quantifier atEnd sequence inside boolean
    (.continuation_of_mark joins operand ends builds)

theorem block (compiles : scope.Compiles now text source)
    (sequence : source.type = .sequence element)
    (inside : (scope.enter element).Compiles now query predicate)
    (boolean : predicate.type = .boolean) (quantifier : Quantifier) :
    scope.Compiles now (quantifier.block text query)
      (.nested quantifier (scope.depth + 1) source predicate) := by
  obtain ⟨_, derivation, ends⟩ := compiles_iff.1 compiles
  exact compiles_iff.2
    ⟨[], derivation.block_of_compiles quantifier ends sequence inside boolean, Word.atEnd_nil⟩

end Scope.Compiles

section Literals

variable {ρ : Type} {now : DateTime} (scope : Scope ρ)

theorem Scope.compiles_true : scope.Compiles now "true" (.literal (.boolean true)) :=
  compiles_iff.2 ⟨[], .expression (.literal rfl rfl rfl) (.noSuffix Word.read?_nil nofun)
    (.stop Word.read?_nil (Word.stops_ending _)), Word.atEnd_nil⟩

theorem Reads.zero (floor : Int) :
    Reads now (.expression scope floor (.literal (.integer 0))) "0".toList [] :=
  .expression (.literal rfl rfl rfl) (.noSuffix Word.read?_nil nofun)
    (.stop Word.read?_nil (Word.stops_ending _))

end Literals

end RecordQuery
