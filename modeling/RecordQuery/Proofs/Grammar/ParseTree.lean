import RecordQuery.Proofs.Scoping.Tail
import RecordQuery.Proofs.Tokens.Insertion

/-!
# Trees of tokens

The tokens of a query, grouped the way the parser groups them.  Such a tree keeps what an
expression forgets: literals that were folded into their operator, patterns that were compiled, and
the parentheses.  `ParseTree.build` makes the expression of it again, node by node.

Not every tree is one that the parser finds.  `ParseTree.Stands` says where its tokens group like
that when they are read from left to right with a floor and with a word behind them.  A tree that
stands before a word and that has an expression is read back from its words
(`ParseTree.reads_expression`).
-/

set_option autoImplicit false

namespace RecordQuery

open Word (read? Run Stops)

/-! ## Trees -/

mutual
/-- Tokens that are grouped as an expression. -/
inductive ParseTree where
  /-- A name, a literal, `@now` or a run of `$`. -/
  | word (token : Token)
  | group (opening : Token) (inner : ParseTree) (closing : Token)
  | unary (mark : Token) (operand : ParseTree)
  | emptyCall (name opening closing : Token)
  | call (name opening : Token) (arguments : ArgumentTree) (closing : Token)
  | member (base : ParseTree) (dot name : Token)
  /-- A question about the elements of its source. -/
  | asked (source : ParseTree) (keyword opening : Token) (predicate : ParseTree) (closing : Token)
  | binary (left : ParseTree) (mark : Token) (right : ParseTree)

/-- Tokens that are grouped as arguments with commas between them. -/
inductive ArgumentTree where
  | last (value : ParseTree)
  | more (value : ParseTree) (comma : Token) (others : ArgumentTree)
end

/-- The mark that a token is. -/
def Token.mark? (token : Token) : Option Mark :=
  match token.kind with
  | .mark mark => some mark
  | _ => none

theorem Token.mark?_eq_some_iff {token : Token} {mark : Mark} :
    token.mark? = some mark ↔ token.kind = .mark mark := by
  unfold Token.mark?
  split
  · next same => rw [same, Option.some.injEq, TokenKind.mark.injEq]
  · next other => exact iff_of_false nofun (other mark)

mutual
/-- The tokens of a tree from left to right. -/
def ParseTree.tokens : ParseTree → List Token
  | .word token => [token]
  | .group opening inner closing => opening :: (inner.tokens ++ [closing])
  | .unary mark operand => mark :: operand.tokens
  | .emptyCall name opening closing => [name, opening, closing]
  | .call name opening arguments closing => name :: opening :: (arguments.tokens ++ [closing])
  | .member base dot name => base.tokens ++ [dot, name]
  | .asked source keyword opening predicate closing =>
    source.tokens ++ keyword :: opening :: (predicate.tokens ++ [closing])
  | .binary left mark right => left.tokens ++ mark :: right.tokens

/-- The tokens of arguments from left to right. -/
def ArgumentTree.tokens : ArgumentTree → List Token
  | .last value => value.tokens
  | .more value comma others => value.tokens ++ comma :: others.tokens
end

mutual
/-- All trees that a tree is built of, with the tree itself. -/
def ParseTree.parts : ParseTree → List ParseTree
  | .word token => [.word token]
  | .group opening inner closing => .group opening inner closing :: inner.parts
  | .unary mark operand => .unary mark operand :: operand.parts
  | .emptyCall name opening closing => [.emptyCall name opening closing]
  | .call name opening arguments closing =>
    .call name opening arguments closing :: arguments.parts
  | .member base dot name => .member base dot name :: base.parts
  | .asked source keyword opening predicate closing =>
    .asked source keyword opening predicate closing :: (source.parts ++ predicate.parts)
  | .binary left mark right => .binary left mark right :: (left.parts ++ right.parts)

/-- All trees that arguments are built of. -/
def ArgumentTree.parts : ArgumentTree → List ParseTree
  | .last value => value.parts
  | .more value _ others => value.parts ++ others.parts
end

section Build

variable {ρ : Type} (now : DateTime)

/-- The expression that a token is alone. -/
def Token.build (scope : Scope ρ) (token : Token) : Option (Expr ρ) :=
  match token.kind with
  | .identifier => (scope.input.ofMember token.lexeme).toOption
  | .now => some (.literal (.dateTime now))
  | .input => (scope.inputOf token.lexeme).toOption
  | .literal => token.literal?.map .literal
  | _ => none

mutual
/-- The expression of a tree, if its operands fit. -/
def ParseTree.build (scope : Scope ρ) : ParseTree → Option (Expr ρ)
  | .word token => token.build now scope
  | .group _ inner _ => inner.build scope
  | .unary mark operand => do
    (Expr.ofUnary (← (← mark.mark?).unary?) mark.lexeme (← operand.build scope)).toOption
  | .emptyCall name _ _ => (Expr.ofCall name.lexeme []).toOption
  | .call name _ arguments _ => do
    (Expr.ofCall name.lexeme (← arguments.build scope)).toOption
  | .member base _ name => do
    ((← base.build scope).ofMember name.lexeme).toOption
  | .asked source keyword _ predicate _ => do
    let source ← source.build scope
    let predicate ← predicate.build (scope.enter (← source.type.element?))
    if predicate.type.isBoolean then
      some (.nested ((Quantifier.ofWord? keyword.lexeme).getD .any) (scope.depth + 1) source
        predicate)
    else none
  | .binary left mark right => do
    (Expr.ofBinary (← (← mark.mark?).binary?) (← left.build scope) (← right.build scope)).toOption

/-- The expressions of arguments. -/
def ArgumentTree.build (scope : Scope ρ) : ArgumentTree → Option (List (Expr ρ))
  | .last value => return [← value.build scope]
  | .more value _ others => return (← value.build scope) :: (← others.build scope)
end

end Build

/-! ## Places of trees -/

/-- An expression read with a floor ends before the word. -/
def Word.Ends (floor : Int) (word : Word) : Prop :=
  word.Stops floor ∧ word.kind ≠ .mark .dot

mutual
/-- The tokens of a tree are grouped like this when they are read with a floor and with a word
behind them. -/
def ParseTree.Stands : ParseTree → Int → Word → Prop
  | .word token, _, next => token.kind = .identifier → next.kind ≠ .mark .parenthesisOpen
  | .group opening inner closing, _, _ =>
    opening.kind = .mark .parenthesisOpen ∧ closing.kind = .mark .parenthesisClose ∧
      inner.Stands lowestPrecedence closing.word
  | .unary _ operand, _, next => operand.Stands lowestPrecedence next ∧ next.Ends lowestPrecedence
  | .emptyCall name opening closing, _, _ =>
    name.kind = .identifier ∧ opening.kind = .mark .parenthesisOpen ∧
      closing.kind = .mark .parenthesisClose
  | .call name opening arguments closing, _, _ =>
    name.kind = .identifier ∧ opening.kind = .mark .parenthesisOpen ∧
      closing.kind = .mark .parenthesisClose ∧ arguments.Stands closing.word
  | .member base dot name, floor, _ =>
    dot.kind = .mark .dot ∧ name.kind = .identifier ∧ base.Stands floor dot.word
  | .asked source keyword opening predicate closing, floor, next =>
    keyword.kind = .quantifier ∧ opening.kind = .mark .blockOpen ∧
      closing.kind = .mark .blockClose ∧ source.Stands floor keyword.word ∧
      predicate.Stands lowestPrecedence closing.word ∧ next.kind ≠ .mark .dot
  | .binary left mark right, floor, next =>
    ∃ entry, mark.mark?.bind Mark.binary? = some entry ∧ floor < entry.precedence ∧
      left.Stands floor mark.word ∧ right.Stands entry.precedence next ∧
      next.Ends entry.precedence

/-- The tokens of arguments are grouped like this with a word behind them. -/
def ArgumentTree.Stands : ArgumentTree → Word → Prop
  | .last value, next => value.Stands lowestPrecedence next
  | .more value comma others, next =>
    comma.kind = .mark .comma ∧ value.Stands lowestPrecedence comma.word ∧ others.Stands next
end

/-! ## Trees are read back from their words -/

theorem Except.toOption_eq_some_iff {ε α : Type} {result : Except ε α} {value : α} :
    result.toOption = some value ↔ result = .ok value := by
  cases result <;> simp [Except.toOption]

namespace Word

variable {text rest : List Char} {word : Word} {words words' : List Word}

theorem run_nil_iff : Run text [] rest ↔ text = rest := by
  constructor
  · rintro ⟨⟩
    rfl
  · rintro rfl
    exact .none

theorem run_cons_iff : Run text (word :: words) rest ↔
    ∃ after, read? text = some (word, after) ∧ word.kind ≠ .endOfInput ∧ Run after words rest := by
  constructor
  · rintro (_ | ⟨reads, real, run⟩)
    exact ⟨_, reads, real, run⟩
  · rintro ⟨after, reads, real, run⟩
    exact .more reads real run

theorem run_append_iff : Run text (words ++ words') rest ↔
    ∃ middle, Run text words middle ∧ Run middle words' rest := by
  refine ⟨fun run => ?_, fun ⟨middle, first, second⟩ => first.append second⟩
  induction words generalizing text with
  | nil => exact ⟨text, .none, run⟩
  | cons word words ih =>
      obtain ⟨after, reads, real, run⟩ := run_cons_iff.1 run
      obtain ⟨middle, first, second⟩ := ih run
      exact ⟨middle, .more reads real first, second⟩

end Word

/-- No question, no operator and no member goes on with the mark. -/
theorem Word.ends_of_mark {word : Word} {mark : Mark} (isMark : word.kind = .mark mark)
    (joins : mark.binary? = none) (other : mark ≠ .dot) (floor : Int) : word.Ends floor := by
  refine ⟨⟨by rw [isMark]; nofun, fun mark' entry isMark' joins' => ?_⟩, ?_⟩
  · cases isMark.symm.trans isMark'
    cases joins.symm.trans joins'
  · rw [isMark]
    rintro ⟨⟩
    exact other rfl

theorem Token.ends_of_mark {token : Token} {mark : Mark} (isMark : token.kind = .mark mark)
    (joins : mark.binary? = none) (other : mark ≠ .dot) (floor : Int) : token.word.Ends floor :=
  have isMark : token.word.kind = .mark mark := isMark
  Word.ends_of_mark isMark joins other floor

/-- A dot joins no expressions. -/
theorem Token.noDot_of_binary? {token : Token} {mark : Mark} {entry : BinaryEntry}
    (isMark : token.kind = .mark mark) (joins : mark.binary? = some entry) :
    token.word.kind ≠ .mark .dot := by
  intro isDot
  cases isMark.symm.trans isDot
  cases joins

variable {ρ : Type} {now : DateTime}

theorem Reads.suffixes_of_noDot {base whole : Expr ρ} {text rest after : List Char} {next : Word}
    (derivation : Reads now (.suffixes base whole) text rest)
    (follows : read? text = some (next, after)) (other : next.kind ≠ .mark .dot) :
    whole = base ∧ rest = text := by
  cases derivation with
  | noSuffix => exact ⟨rfl, rfl⟩
  | suffix point isDot =>
      cases follows.symm.trans point
      exact absurd isDot other

/-- A token alone is a primary expression. -/
theorem Token.reads_primary {scope : Scope ρ} {token : Token} {whole : Expr ρ} {next : Word}
    {text rest after : List Char} (reads : read? text = some (token.word, rest))
    (builds : token.build now scope = some whole) (follows : read? rest = some (next, after))
    (uncalled : token.kind = .identifier → next.kind ≠ .mark .parenthesisOpen) :
    Reads now (.primary scope whole) text rest := by
  unfold Token.build at builds
  split at builds
  · next isName =>
    exact .name reads isName follows (uncalled isName) (Except.toOption_eq_some_iff.1 builds)
  · next isNow =>
    cases builds
    exact .now reads isNow
  · next isRun => exact .input reads isRun (Except.toOption_eq_some_iff.1 builds)
  · next isLiteral =>
    obtain ⟨value, carries, rfl⟩ := Option.map_eq_some_iff.1 builds
    exact .literal reads isLiteral carries
  · cases builds

mutual
/-- A tree that stands before a word is read from its words, with what is read behind it. -/
theorem ParseTree.reads_expression (tree : ParseTree) {scope : Scope ρ} {floor : Int}
    {whole left final : Expr ρ} {text rest middle stop after : List Char} {next : Word}
    (run : Run text (tree.tokens.map Token.word) rest) (builds : tree.build now scope = some whole)
    (follows : read? rest = some (next, after)) (stands : tree.Stands floor next)
    (suffixes : Reads now (.suffixes whole left) rest middle)
    (continuation : Reads now (.continuation scope floor left final) middle stop) :
    Reads now (.expression scope floor final) text stop := by
  cases tree with
  | word token =>
      simp only [ParseTree.tokens, List.map_cons, List.map_nil, Word.run_cons_iff,
        Word.run_nil_iff] at run
      obtain ⟨_, reads, -, rfl⟩ := run
      exact .expression (token.reads_primary reads builds follows stands) suffixes continuation
  | group opening inner closing =>
      obtain ⟨isOpen, isClose, stands⟩ := stands
      simp only [ParseTree.tokens, List.map_cons, List.map_append, List.map_nil,
        Word.run_cons_iff, Word.run_append_iff, Word.run_nil_iff] at run
      obtain ⟨_, opens, -, _, run, _, closes, -, rfl⟩ := run
      have ends := Token.ends_of_mark isClose rfl (by decide) lowestPrecedence
      refine .expression (.group opens isOpen ?_ closes isClose) suffixes continuation
      exact inner.reads_expression run builds closes stands (.noSuffix closes ends.2)
        (.stop closes ends.1)
  | unary mark operand =>
      obtain ⟨stands, ends⟩ := stands
      simp only [ParseTree.tokens, List.map_cons, Word.run_cons_iff] at run
      obtain ⟨_, reads, -, run⟩ := run
      simp only [ParseTree.build, Option.bind_eq_bind, Option.bind_eq_some_iff,
        Except.toOption_eq_some_iff, Token.mark?_eq_some_iff] at builds
      obtain ⟨mark, isMark, op, prefixes, value, builds, joins⟩ := builds
      refine .expression (.unary reads isMark prefixes ?_ joins) suffixes continuation
      exact operand.reads_expression run builds follows stands (.noSuffix follows ends.2)
        (.stop follows ends.1)
  | emptyCall name opening closing =>
      obtain ⟨isName, isOpen, isClose⟩ := stands
      simp only [ParseTree.tokens, List.map_cons, List.map_nil, Word.run_cons_iff,
        Word.run_nil_iff] at run
      obtain ⟨_, named, -, _, opens, -, _, closes, -, rfl⟩ := run
      exact .expression (.call named isName opens isOpen
        (.noArguments opens isOpen closes isClose) (Except.toOption_eq_some_iff.1 builds))
        suffixes continuation
  | call name opening arguments closing =>
      obtain ⟨isName, isOpen, isClose, stands⟩ := stands
      simp only [ParseTree.tokens, List.map_cons, List.map_append, List.map_nil,
        Word.run_cons_iff, Word.run_append_iff, Word.run_nil_iff] at run
      obtain ⟨_, named, -, _, opens, -, _, run, _, closes, -, rfl⟩ := run
      simp only [ParseTree.build, Option.bind_eq_bind, Option.bind_eq_some_iff,
        Except.toOption_eq_some_iff] at builds
      obtain ⟨values, builds, joins⟩ := builds
      have listed := arguments.reads_listed run builds closes stands isClose
      obtain ⟨first, _, first_reads, other⟩ := listed.first_word_listed
      exact .expression (.call named isName opens isOpen
        (.arguments opens isOpen first_reads other listed closes isClose) joins)
        suffixes continuation
  | member base dot name =>
      obtain ⟨isDot, isName, stands⟩ := stands
      simp only [ParseTree.tokens, List.map_cons, List.map_append, List.map_nil,
        Word.run_cons_iff, Word.run_append_iff, Word.run_nil_iff] at run
      obtain ⟨_, run, _, point, -, _, named, -, rfl⟩ := run
      simp only [ParseTree.build, Option.bind_eq_bind, Option.bind_eq_some_iff,
        Except.toOption_eq_some_iff] at builds
      obtain ⟨value, builds, resolves⟩ := builds
      exact base.reads_expression run builds point stands
        (.suffix point isDot named isName resolves suffixes) continuation
  | asked source keyword opening predicate closing =>
      obtain ⟨isKeyword, isOpen, isClose, stands, standsInside, other⟩ := stands
      simp only [ParseTree.tokens, List.map_cons, List.map_append, List.map_nil,
        Word.run_cons_iff, Word.run_append_iff, Word.run_nil_iff] at run
      obtain ⟨_, run, _, reads, -, _, opens, -, _, runInside, _, closes, -, rfl⟩ := run
      obtain ⟨rfl, rfl⟩ := suffixes.suffixes_of_noDot follows other
      simp only [ParseTree.build, Option.bind_eq_bind, Option.bind_eq_some_iff,
        Option.ite_none_right_eq_some] at builds
      obtain ⟨value, builds, element, sequence, inner, buildsInside, boolean, whole⟩ := builds
      cases whole
      have ends := Token.ends_of_mark isClose rfl (by decide) lowestPrecedence
      have inside := predicate.reads_expression runInside buildsInside closes standsInside
        (.noSuffix closes ends.2) (.stop closes ends.1)
      have question : Reads now (.question scope keyword.lexeme value _) _ _ :=
        .question sequence opens isOpen inside boolean closes isClose
      have isNoDot : keyword.word.kind ≠ .mark .dot := by
        rw [show keyword.word.kind = .quantifier from isKeyword]
        nofun
      exact source.reads_expression run builds reads stands (.noSuffix reads isNoDot)
        (.asked reads isKeyword question continuation)
  | binary left mark right =>
      obtain ⟨entry, isOperator, binds, standsLeft, standsRight, ends⟩ := stands
      obtain ⟨rfl, rfl⟩ := suffixes.suffixes_of_noDot follows ends.2
      simp only [ParseTree.tokens, List.map_cons, List.map_append, Word.run_cons_iff,
        Word.run_append_iff] at run
      obtain ⟨_, runLeft, _, reads, -, runRight⟩ := run
      simp only [Option.bind_eq_some_iff, Token.mark?_eq_some_iff] at isOperator
      obtain ⟨symbol, isMark, joins⟩ := isOperator
      simp only [ParseTree.build, Option.bind_eq_bind, Option.bind_eq_some_iff,
        Except.toOption_eq_some_iff, Token.mark?_eq_some_iff] at builds
      obtain ⟨_, isMark', _, joins', value, buildsLeft, value', buildsRight, builds⟩ := builds
      cases isMark.symm.trans isMark'
      cases joins.symm.trans joins'
      have noDot := Token.noDot_of_binary? isMark joins
      have second := right.reads_expression runRight buildsRight follows standsRight
        (.noSuffix follows ends.2) (.stop follows ends.1)
      exact left.reads_expression runLeft buildsLeft reads standsLeft (.noSuffix reads noDot)
        (.operator reads isMark joins binds second builds continuation)

/-- Arguments that stand before a word are read from their words. -/
theorem ArgumentTree.reads_listed (arguments : ArgumentTree) {scope : Scope ρ}
    {values : List (Expr ρ)} {text rest after : List Char} {next : Word}
    (run : Run text (arguments.tokens.map Token.word) rest)
    (builds : arguments.build now scope = some values) (follows : read? rest = some (next, after))
    (stands : arguments.Stands next) (isClose : next.kind = .mark .parenthesisClose) :
    Reads now (.listed scope values) text rest := by
  cases arguments with
  | last value =>
      simp only [ArgumentTree.build, Option.bind_eq_bind, Option.bind_eq_some_iff,
        Option.pure_def, Option.some.injEq] at builds
      obtain ⟨single, builds, rfl⟩ := builds
      have ends := Word.ends_of_mark isClose rfl (by decide) lowestPrecedence
      refine .last ?_ follows (by rw [isClose]; nofun)
      exact value.reads_expression run builds follows stands (.noSuffix follows ends.2)
        (.stop follows ends.1)
  | more value comma others =>
      obtain ⟨isComma, stands, standsOthers⟩ := stands
      simp only [ArgumentTree.tokens, List.map_cons, List.map_append, Word.run_cons_iff,
        Word.run_append_iff] at run
      obtain ⟨_, run, _, separates, -, runOthers⟩ := run
      simp only [ArgumentTree.build, Option.bind_eq_bind, Option.bind_eq_some_iff,
        Option.pure_def, Option.some.injEq] at builds
      obtain ⟨single, builds, several, buildsOthers, rfl⟩ := builds
      have ends := Token.ends_of_mark isComma rfl (by decide) lowestPrecedence
      refine .cons ?_ separates isComma
        (others.reads_listed runOthers buildsOthers follows standsOthers isClose)
      exact value.reads_expression run builds separates stands (.noSuffix separates ends.2)
        (.stop separates ends.1)
end

end RecordQuery
