import RecordQuery.Proofs.Grammar.Spacing
import RecordQuery.Proofs.Typing.Tree

/-!
# Phrases before a tail

What stands in a text stands there still when the text goes on, as long as the tail begins with
a word that the phrase does not take (`Reads.append`).  A phrase that ends before the end of its
text has met that word already.  Only a phrase that reaches the end meets the tail, and of
these only the ones that look for operators and questions there can go on (`Phrase.Open`).

An expression that is a sequence has nothing but members behind its first part, since no
question and no operator gives a sequence.  So a question that is put behind it is about all of
it (`Reads.ask`).
-/

set_option autoImplicit false

namespace RecordQuery

open Word (read? AtEnd)

/-! ## The first word of a tail -/

section FirstWord

variable {text tail after behind : List Char} {word next : Word}

/-- A word that stands at the end of a text stays the same word before the tail. -/
def Word.Keeps (tail : List Char) : Prop :=
  ∀ ⦃text after : List Char⦄ ⦃word : Word⦄, read? text = some (word, after) →
    word.kind ≠ .endOfInput → read? (text ++ tail) = some (word, after ++ tail)

theorem Word.keeps_of_apart (apart : Text.Apart tail) : Word.Keeps tail :=
  fun _ _ _ => Word.read?_append apart

/-- No member, no call and no further argument goes on with the word. -/
def Word.Parts (word : Word) : Prop :=
  ∀ mark ∈ [Mark.dot, .parenthesisOpen, .comma], word.kind ≠ .mark mark

instance (word : Word) : Decidable word.Parts :=
  inferInstanceAs (Decidable (∀ mark ∈ [Mark.dot, _, _], word.kind ≠ .mark mark))

/-- The first word before a tail is that of the text, or that of the tail behind an empty
text. -/
theorem Word.exists_read?_append {P : Word → Prop} (keeps : Word.Keeps tail)
    (follows : read? tail = some (next, behind)) (reads : read? text = some (word, after))
    (inside : P word) (outside : AtEnd text → P next) :
    ∃ first left, read? (text ++ tail) = some (first, left) ∧ P first := by
  by_cases last : word.kind = .endOfInput
  · have ends : AtEnd text := ⟨word, after, reads, last⟩
    exact ⟨next, behind, (read?_append_of_atEnd ends).trans follows, outside ends⟩
  · exact ⟨word, after ++ tail, keeps reads last, inside⟩

theorem Word.not_atEnd {kind : TokenKind} (reads : read? text = some (word, after))
    (same : word.kind = kind) (real : kind ≠ .endOfInput) : ¬ AtEnd text := by
  rintro ⟨last, left, ends, isLast⟩
  cases reads.symm.trans ends
  exact real (same.symm.trans isLast)

end FirstWord

variable {ρ : Type} {now : DateTime}

/-! ## Words at the front of phrases -/

namespace Reads

variable {scope : Scope ρ} {floor : Int} {text rest : List Char}

/-- No expression begins with a parenthesis that closes. -/
theorem first_word {whole : Expr ρ}
    (derivation : Reads now (.expression scope floor whole) text rest) :
    ∃ word after, read? text = some (word, after) ∧ word.kind ≠ .mark .parenthesisClose := by
  have differs : ∀ {kind : TokenKind} {word : Word}, word.kind = kind →
      kind ≠ .mark .parenthesisClose → word.kind ≠ .mark .parenthesisClose :=
    fun same other => same ▸ other
  cases derivation with
  | expression primary =>
      cases primary with
      | call named isName => exact ⟨_, _, named, differs isName nofun⟩
      | name named isName => exact ⟨_, _, named, differs isName nofun⟩
      | now reads isNow => exact ⟨_, _, reads, differs isNow nofun⟩
      | input reads isRun => exact ⟨_, _, reads, differs isRun nofun⟩
      | literal reads isLiteral => exact ⟨_, _, reads, differs isLiteral nofun⟩
      | group opens isOpen => exact ⟨_, _, opens, differs isOpen nofun⟩
      | unary reads isMark prefixes =>
          refine ⟨_, _, reads, differs isMark ?_⟩
          rintro ⟨⟩
          cases prefixes

theorem first_word_listed {values : List (Expr ρ)}
    (derivation : Reads now (.listed scope values) text rest) :
    ∃ word after, read? text = some (word, after) ∧ word.kind ≠ .mark .parenthesisClose := by
  cases derivation with
  | last expression => exact expression.first_word
  | cons expression => exact expression.first_word

/-! ## Phrases at the end of a text -/

theorem suffixes_of_atEnd {base whole : Expr ρ}
    (derivation : Reads now (.suffixes base whole) text rest) (ends : AtEnd text) :
    rest = text ∧ whole = base := by
  cases derivation with
  | noSuffix => exact ⟨rfl, rfl⟩
  | suffix point isDot => exact absurd ends (Word.not_atEnd point isDot (by decide))

theorem continuation_of_atEnd {left whole : Expr ρ}
    (derivation : Reads now (.continuation scope floor left whole) text rest)
    (ends : AtEnd text) : rest = text := by
  cases derivation with
  | stop => rfl
  | asked reads isKeyword => exact absurd ends (Word.not_atEnd reads isKeyword (by decide))
  | operator reads isMark => exact absurd ends (Word.not_atEnd reads isMark (by simp))

end Reads

/-- Operators and questions behind the phrase would belong to it.  A primary expression is of
this kind where it ends with the operand of a unary operator, and then its value has no parts. -/
def Phrase.Open : Phrase ρ → Prop
  | .expression _ _ _ | .continuation _ _ _ _ | .listed _ _ => True
  | .primary _ whole => whole.type.Scalar
  | .suffixes _ _ | .arguments _ _ | .question _ _ _ _ => False

/-- A phrase stays where the text goes on with a word that it does not take.  Whether the word
stops an expression counts only where the phrase reaches the end of the text and is open there. -/
theorem Reads.append {phrase : Phrase ρ} {text rest tail behind : List Char} {next : Word}
    (keeps : Word.Keeps tail) (follows : read? tail = some (next, behind)) (parts : next.Parts)
    (derivation : Reads now phrase text rest) :
    (AtEnd rest → phrase.Open → ∀ floor, next.Stops floor) →
      Reads now phrase (text ++ tail) (rest ++ tail) := by
  have kept : ∀ {kind : TokenKind} {text after : List Char} {word : Word},
      read? text = some (word, after) → word.kind = kind → kind ≠ .endOfInput →
      read? (text ++ tail) = some (word, after ++ tail) :=
    fun reads same real => keeps reads (same ▸ real)
  have keptMark : ∀ {mark : Mark} {text after : List Char} {word : Word},
      read? text = some (word, after) → word.kind = .mark mark →
      read? (text ++ tail) = some (word, after ++ tail) :=
    fun reads isMark => kept reads isMark (by simp)
  have differs : ∀ {mark : Mark} {text after : List Char} {word : Word},
      read? text = some (word, after) → word.kind ≠ .mark mark →
      mark ∈ [Mark.dot, .parenthesisOpen, .comma] →
      ∃ first left, read? (text ++ tail) = some (first, left) ∧ first.kind ≠ .mark mark :=
    fun reads other listed => Word.exists_read?_append keeps follows reads
      (P := fun word => word.kind ≠ .mark _) other fun _ => parts _ listed
  have inside : ∀ {mark : Mark} {text after : List Char} {word : Word},
      read? text = some (word, after) → word.kind = .mark mark → ¬ AtEnd text :=
    fun reads isMark => Word.not_atEnd reads isMark (by simp)
  induction derivation with
  | noSuffix reads other =>
      intro _
      obtain ⟨_, _, reads, other⟩ := differs reads other (by decide)
      exact .noSuffix reads other
  | suffix point isDot named isName resolves more ih =>
      intro _
      exact .suffix (keptMark point isDot) isDot (kept named isName (by decide)) isName resolves
        (ih fun _ => False.elim)
  | expression primary suffixes continuation ihPrimary ihSuffixes ihContinuation =>
      intro stops
      refine .expression (ihPrimary fun ends _ => ?_) (ihSuffixes fun _ => False.elim)
        (ihContinuation stops)
      -- Where the first part reaches the end, nothing is left for the parts behind it.
      obtain ⟨rfl, _⟩ := suffixes.suffixes_of_atEnd ends
      obtain rfl := continuation.continuation_of_atEnd ends
      exact stops ends trivial
  | call named isName opens isOpen arguments builds ih =>
      intro _
      exact .call (kept named isName (by decide)) isName (keptMark opens isOpen) isOpen
        (ih fun _ => False.elim) builds
  | name named isName next other resolves =>
      intro _
      obtain ⟨_, _, next, other⟩ := differs next other (by decide)
      exact .name (kept named isName (by decide)) isName next other resolves
  | now reads isNow => exact fun _ => .now (kept reads isNow (by decide)) isNow
  | input reads isRun resolves =>
      exact fun _ => .input (kept reads isRun (by decide)) isRun resolves
  | literal reads isLiteral carries =>
      exact fun _ => .literal (kept reads isLiteral (by decide)) isLiteral carries
  | group opens isOpen expression closes isClose ih =>
      intro _
      exact .group (keptMark opens isOpen) isOpen
        (ih fun ends => absurd ends (inside closes isClose)) (keptMark closes isClose) isClose
  | unary reads isMark prefixes expression builds ih =>
      intro stops
      exact .unary (keptMark reads isMark) isMark prefixes
        (ih fun ends _ => stops ends (Expr.scalar_of_ofUnary builds)) builds
  | noArguments opens isOpen closes isClose =>
      intro _
      exact .noArguments (keptMark opens isOpen) isOpen (keptMark closes isClose) isClose
  | arguments opens isOpen _ _ listed closes isClose ih =>
      intro _
      have listed := ih fun ends => absurd ends (inside closes isClose)
      obtain ⟨_, _, next, other⟩ := listed.first_word_listed
      exact .arguments (keptMark opens isOpen) isOpen next other listed (keptMark closes isClose)
        isClose
  | last expression next other ih =>
      intro stops
      obtain ⟨_, _, next, other⟩ := differs next other (by decide)
      exact .last (ih stops) next other
  | cons expression separates isComma listed ihExpression ihListed =>
      intro stops
      exact .cons (ihExpression fun ends => absurd ends (inside separates isComma))
        (keptMark separates isComma) isComma (ihListed stops)
  | @stop scope floor left text after word reads stopsHere =>
      intro stops
      obtain ⟨_, _, reads, stopsHere⟩ := Word.exists_read?_append keeps follows reads
        (P := Word.Stops floor) stopsHere fun ends => stops ends trivial floor
      exact .stop reads stopsHere
  | asked reads isKeyword question continuation ihQuestion ihContinuation =>
      intro stops
      exact .asked (kept reads isKeyword (by decide)) isKeyword (ihQuestion fun _ => False.elim)
        (ihContinuation stops)
  | operator reads isMark joins binds expression builds continuation ihExpression
      ihContinuation =>
      intro stops
      refine .operator (keptMark reads isMark) isMark joins binds
        (ihExpression fun ends _ => ?_) builds (ihContinuation stops)
      obtain rfl := continuation.continuation_of_atEnd ends
      exact stops ends trivial
  | question sequence opens isOpen expression boolean closes isClose ih =>
      intro _
      exact .question sequence (keptMark opens isOpen) isOpen
        (ih fun ends => absurd ends (inside closes isClose)) boolean (keptMark closes isClose)
        isClose

/-! ## Phrases behind blanks -/

section SameWord

variable {scope : Scope ρ} {floor : Int} {whole : Expr ρ} {text text' rest : List Char}

/-- Only the first word of a text counts for what begins there. -/
theorem Reads.primary_of_read?_eq (same : read? text' = read? text)
    (derivation : Reads now (.primary scope whole) text rest) :
    Reads now (.primary scope whole) text' rest := by
  cases derivation with
  | call named isName opens isOpen arguments builds =>
      exact .call (same.trans named) isName opens isOpen arguments builds
  | name named isName next other resolves =>
      exact .name (same.trans named) isName next other resolves
  | now reads isNow => exact .now (same.trans reads) isNow
  | input reads isRun resolves => exact .input (same.trans reads) isRun resolves
  | literal reads isLiteral carries => exact .literal (same.trans reads) isLiteral carries
  | group opens isOpen expression closes isClose =>
      exact .group (same.trans opens) isOpen expression closes isClose
  | unary reads isMark prefixes expression builds =>
      exact .unary (same.trans reads) isMark prefixes expression builds

theorem Reads.expression_of_read?_eq (same : read? text' = read? text)
    (derivation : Reads now (.expression scope floor whole) text rest) :
    Reads now (.expression scope floor whole) text' rest := by
  cases derivation with
  | expression primary suffixes continuation =>
      exact .expression (primary.primary_of_read?_eq same) suffixes continuation

end SameWord

/-! ## Questions about a whole expression -/

/-- Whatever is built behind a tree has no parts. -/
def Phrase.Builds (text rest : List Char) : Phrase ρ → Prop
  | .continuation _ _ left whole => (whole = left ∧ rest = text) ∨ whole.type.Scalar
  | .question _ _ _ whole => whole.type.Scalar
  | _ => True

theorem Reads.builds {phrase : Phrase ρ} {text rest : List Char}
    (derivation : Reads now phrase text rest) : phrase.Builds text rest := by
  induction derivation with
  | stop => exact .inl ⟨rfl, rfl⟩
  | asked _ _ _ _ ihQuestion ihContinuation =>
      rcases ihContinuation with ⟨rfl, _⟩ | scalar
      · exact .inr ihQuestion
      · exact .inr scalar
  | operator _ _ _ _ _ builds _ _ ihContinuation =>
      rcases ihContinuation with ⟨rfl, _⟩ | scalar
      · exact .inr (Expr.scalar_of_ofBinary builds)
      · exact .inr scalar
  | question => exact Quantifier.scalar_resultType _
  | _ => trivial

/-- A question behind a text that is a sequence asks about the whole text. -/
theorem Reads.ask {scope : Scope ρ} {floor : Int} {source answered whole : Expr ρ}
    {element : ValueType ρ} {text rest tail afterWord afterBlock left : List Char} {keyword : Word}
    (expression : Reads now (.expression scope floor source) text rest) (ends : AtEnd rest)
    (sequence : source.type = .sequence element) (apart : Text.Apart tail)
    (reads : read? tail = some (keyword, afterWord)) (isKeyword : keyword.kind = .quantifier)
    (question : Reads now (.question scope keyword.lexeme source answered) afterWord afterBlock)
    (continuation : Reads now (.continuation scope floor answered whole) afterBlock left) :
    Reads now (.expression scope floor whole) (text ++ tail) left := by
  have parts : keyword.Parts := by
    rintro mark - same
    cases isKeyword.symm.trans same
  have composed : ¬ source.type.Scalar := by
    rw [sequence]
    nofun
  cases expression with
  | @expression _ _ first operand _ _ afterFirst afterOperand _ primary suffixes behind =>
      -- The source is what it was before any continuation, and the text ends right behind it.
      obtain ⟨rfl, rfl⟩ : source = operand ∧ rest = afterOperand := by
        rcases behind.builds with same | scalar
        · exact same
        · exact absurd scalar composed
      have keeps := Word.keeps_of_apart apart
      have primary := primary.append keeps reads parts fun atEnd scalar => by
        obtain ⟨_, rfl⟩ := suffixes.suffixes_of_atEnd atEnd
        exact absurd scalar composed
      have suffixes := suffixes.append keeps reads parts fun _ => False.elim
      exact .expression primary suffixes
        (.asked ((Word.read?_append_of_atEnd ends).trans reads) isKeyword question continuation)

end RecordQuery
