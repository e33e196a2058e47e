import RecordQuery.Proofs.Grammar.Part
import RecordQuery.Proofs.Literals.Folding

/-!
# Literals and members that hold their text

A literal in a query may be exchanged for a member of the input of the query.  On inputs where the
member holds the text of the literal, a query should not tell the two apart.

An `Exchange` is a member, the name it is asked for by, and the text of the literal.  Two queries
face each other if they are word for word the same, except that some literals with this text on
one side are references to the member on the other (`Exchange.Facing`).  A reference is a run of
`$` that reaches out to the input of the query, a dot and the name; so the relation keeps the
number of questions around the place where it is.

Two trees are alike if they have the same type, have the same value on all inputs in question, and
are the same literal, if any (`Exchange.Alike`).  The last does not hold where literals were
exchanged, nor where a call was carried out on one side only.  The builders of expressions keep
trees alike.  Where one of them works on a literal at once, it may fail on one side, and then the
other side has a part that shows why (`Exchange.Blames`).
-/

set_option autoImplicit false

namespace RecordQuery

open Word (read?)

variable {ρ : Type}

/-- A member of the input of a query, and a literal that may be exchanged for it. -/
structure Exchange (ρ : Type) where
  root : ValueType ρ
  name : String
  member : Member ρ
  resolves : root.resolveMember name = .ok member
  isText : member.type = .string
  text : String

/-! ## Texts -/

/-- The number of questions around what follows a word of a kind. -/
def TokenKind.level (depth : Nat) : TokenKind → Nat
  | .mark .blockOpen => depth + 1
  | .mark .blockClose => depth - 1
  | _ => depth

theorem Word.ne_mark_of_operand {word : Word} {mark : Mark}
    (operand : word.kind = .input ∨ word.kind = .literal) : word.kind ≠ .mark mark := by
  rcases operand with same | same <;> rw [same] <;> nofun

/-- No operand goes on with what is before it. -/
theorem Word.stops_of_operand {word : Word} {floor : Int}
    (operand : word.kind = .input ∨ word.kind = .literal) : word.Stops floor := by
  refine ⟨?_, fun mark entry isMark => ?_⟩
  · rcases operand with same | same <;> rw [same] <;> nofun
  · rcases operand with same | same <;> cases same.symm.trans isMark

/-- A run of `$` out of so many questions, a dot and a name stand at the front of a text. -/
structure ReadsReference (name : String) (depth : Nat) (text : List Char) where
  run : Word
  dot : Word
  member : Word
  afterRun : List Char
  afterDot : List Char
  after : List Char
  runs : read? text = some (run, afterRun)
  isRun : run.kind = .input
  levels : run.lexeme.toList.length = depth + 1
  points : read? afterRun = some (dot, afterDot)
  isDot : dot.kind = .mark .dot
  named : read? afterDot = some (member, after)
  isName : member.kind = .identifier
  lexeme : member.lexeme = name

namespace Exchange

variable (exchange : Exchange ρ)

/-- Two texts with so many questions around them have the same words, except that some literals
of the first one are references in the second one. -/
inductive Facing : Nat → List Char → List Char → Prop
  | same {depth : Nat} {left right : List Char} (reads : read? left = read? right) :
      Facing depth left right
  | word {depth : Nat} {left right after after' : List Char} {word : Word}
      (reads : read? left = some (word, after)) (reads' : read? right = some (word, after'))
      (more : Facing (word.kind.level depth) after after') : Facing depth left right
  | literal {depth : Nat} {left right after : List Char} {word : Word}
      (reads : read? left = some (word, after)) (isLiteral : word.kind = .literal)
      (carries : word.literal? = some (.string exchange.text))
      (reference : ReadsReference exchange.name depth right)
      (more : Facing depth after reference.after) : Facing depth left right

variable {exchange} {depth : Nat} {left right after after' : List Char} {word : Word}

namespace Facing

theorem refl : exchange.Facing depth left left := .same rfl

/-- The first word of the first text is also that of the second one, or is exchanged. -/
theorem forward (facing : exchange.Facing depth left right)
    (reads : read? left = some (word, after)) :
    (∃ after', read? right = some (word, after') ∧
      exchange.Facing (word.kind.level depth) after after') ∨
    (word.kind = .literal ∧ word.literal? = some (.string exchange.text) ∧
      ∃ reference : ReadsReference exchange.name depth right,
        exchange.Facing depth after reference.after) := by
  cases facing with
  | same same => exact .inl ⟨after, same ▸ reads, .refl⟩
  | word found found' more =>
      cases reads.symm.trans found
      exact .inl ⟨_, found', more⟩
  | literal found isLiteral carries reference more =>
      cases reads.symm.trans found
      exact .inr ⟨isLiteral, carries, reference, more⟩

/-- The first word of the second text is also that of the first one, or begins a reference. -/
theorem backward (facing : exchange.Facing depth left right)
    (reads : read? right = some (word, after')) :
    (∃ after, read? left = some (word, after) ∧
      exchange.Facing (word.kind.level depth) after after') ∨
    (word.kind = .input ∧ ∃ (literal : Word) (after : List Char)
      (reference : ReadsReference exchange.name depth right),
      read? left = some (literal, after) ∧ literal.kind = .literal ∧
      literal.literal? = some (.string exchange.text) ∧
      exchange.Facing depth after reference.after) := by
  cases facing with
  | same same => exact .inl ⟨after', same ▸ reads, .refl⟩
  | word found found' more =>
      cases reads.symm.trans found'
      exact .inl ⟨_, found, more⟩
  | literal found isLiteral carries reference more =>
      cases reads.symm.trans reference.runs
      exact .inr ⟨reference.isRun, _, _, reference, found, isLiteral, carries, more⟩

variable {kind : TokenKind} {mark : Mark} {floor : Int}

theorem forward_kind (facing : exchange.Facing depth left right)
    (reads : read? left = some (word, after)) (same : word.kind = kind) (other : kind ≠ .literal) :
    ∃ after', read? right = some (word, after') ∧
      exchange.Facing (kind.level depth) after after' := by
  rcases facing.forward reads with found | ⟨isLiteral, _⟩
  · exact same ▸ found
  · exact absurd (same.symm.trans isLiteral) other

theorem backward_kind (facing : exchange.Facing depth left right)
    (reads : read? right = some (word, after')) (same : word.kind = kind) (other : kind ≠ .input) :
    ∃ after, read? left = some (word, after) ∧
      exchange.Facing (kind.level depth) after after' := by
  rcases facing.backward reads with found | ⟨isRun, _⟩
  · exact same ▸ found
  · exact absurd (same.symm.trans isRun) other

/-- A property that all operands have survives the exchange of a first word. -/
theorem forward_holds {Holds : Word → Prop} (facing : exchange.Facing depth left right)
    (reads : read? left = some (word, after)) (holds : Holds word)
    (operands : ∀ operand : Word, operand.kind = .input ∨ operand.kind = .literal →
      Holds operand) :
    ∃ word' after', read? right = some (word', after') ∧ Holds word' := by
  rcases facing.forward reads with ⟨after', reads', _⟩ | ⟨_, _, reference, _⟩
  · exact ⟨word, after', reads', holds⟩
  · exact ⟨_, _, reference.runs, operands _ (.inl reference.isRun)⟩

theorem backward_holds {Holds : Word → Prop} (facing : exchange.Facing depth left right)
    (reads : read? right = some (word, after')) (holds : Holds word)
    (operands : ∀ operand : Word, operand.kind = .input ∨ operand.kind = .literal →
      Holds operand) :
    ∃ word' after, read? left = some (word', after) ∧ Holds word' := by
  rcases facing.backward reads with
    ⟨after, reads', _⟩ | ⟨_, literal, after, _, reads', isLiteral, _⟩
  · exact ⟨word, after, reads', holds⟩
  · exact ⟨literal, after, reads', operands literal (.inr isLiteral)⟩

/-- A word that is not the mark stands before a word that is not the mark. -/
theorem forward_ne (facing : exchange.Facing depth left right)
    (reads : read? left = some (word, after)) (other : word.kind ≠ .mark mark) :
    ∃ word' after', read? right = some (word', after') ∧ word'.kind ≠ .mark mark :=
  facing.forward_holds reads other fun _ operand => Word.ne_mark_of_operand operand

theorem backward_ne (facing : exchange.Facing depth left right)
    (reads : read? right = some (word, after')) (other : word.kind ≠ .mark mark) :
    ∃ word' after, read? left = some (word', after) ∧ word'.kind ≠ .mark mark :=
  facing.backward_holds reads other fun _ operand => Word.ne_mark_of_operand operand

theorem forward_stops (facing : exchange.Facing depth left right)
    (reads : read? left = some (word, after)) (stops : word.Stops floor) :
    ∃ word' after', read? right = some (word', after') ∧ word'.Stops floor :=
  facing.forward_holds reads stops fun _ operand => Word.stops_of_operand operand

theorem backward_stops (facing : exchange.Facing depth left right)
    (reads : read? right = some (word, after')) (stops : word.Stops floor) :
    ∃ word' after, read? left = some (word', after) ∧ word'.Stops floor :=
  facing.backward_holds reads stops fun _ operand => Word.stops_of_operand operand

end Facing

/-! ## Trees -/

variable (exchange)

/-- The tree of a reference, the same at every depth. -/
def reference : Expr ρ := .member (.input 0 exchange.root) exchange.member

/-- The input of the query, which is the last one of the environment, holds the text. -/
def Fits (environment : List (Value ρ)) : Prop :=
  ∃ input, environment.getLast? = some input ∧
    exchange.member.readFrom input = .string exchange.text

variable {exchange}

theorem Fits.cons {environment : List (Value ρ)} (fits : exchange.Fits environment)
    (element : Value ρ) : exchange.Fits (element :: environment) := by
  obtain ⟨input, last, holds⟩ := fits
  exact ⟨input, by rw [List.getLast?_cons, last]; rfl, holds⟩

theorem type_reference : exchange.reference.type = .string := exchange.isText

theorem readRegex_reference (op : PatternOp) :
    Expr.readRegex op exchange.reference = .ok none := by
  cases op <;> rfl

variable [BEq ρ]

theorem valueIn_reference {environment : List (Value ρ)} (fits : exchange.Fits environment) :
    exchange.reference.valueIn environment = .string exchange.text := by
  obtain ⟨input, last, holds⟩ := fits
  rw [reference, Expr.valueIn, Expr.valueIn, Nat.sub_zero, ← List.getLast?_eq_getElem?, last]
  exact holds

variable (exchange)

/-- Trees of the same type that have the same value where the member holds the text.  They are the
same literal or none, unless literals were exchanged or one of them is a call that was carried
out. -/
structure Alike (expr expr' : Expr ρ) : Prop where
  type : expr'.type = expr.type
  literal : expr'.literal? = expr.literal? ∨
    (expr = .literal (.string exchange.text) ∧ expr' = exchange.reference) ∨
    (expr'.literal? = none ∧ expr.type ≠ .string)
  value : ∀ environment, exchange.Fits environment →
    expr'.valueIn environment = expr.valueIn environment

variable {exchange}

namespace Alike

theorem refl (expr : Expr ρ) : exchange.Alike expr expr := ⟨rfl, .inl rfl, fun _ _ => rfl⟩

theorem exchanged : exchange.Alike (.literal (.string exchange.text)) exchange.reference where
  type := type_reference
  literal := .inr (.inl ⟨rfl, rfl⟩)
  value environment fits := by
    rw [valueIn_reference fits, Expr.valueIn]
    rfl

/-- Texts that are alike are the same literal or none, or they were exchanged. -/
theorem text_cases {expr expr' : Expr ρ} (alike : exchange.Alike expr expr')
    (text : expr.type = .string) :
    expr'.literal? = expr.literal? ∨
      (expr = .literal (.string exchange.text) ∧ expr' = exchange.reference) := by
  rcases alike.literal with same | exchanged | ⟨_, other⟩
  · exact .inl same
  · exact .inr exchanged
  · exact absurd text other

variable {base base' left left' right right' : Expr ρ}

theorem member (alike : exchange.Alike base base') (read : Member ρ) :
    exchange.Alike (.member base read) (.member base' read) where
  type := rfl
  literal := .inl rfl
  value environment fits := by rw [Expr.valueIn, Expr.valueIn, alike.value environment fits]

theorem unary (alike : exchange.Alike base base') (op : UnaryOp) :
    exchange.Alike (.unary op base) (.unary op base') where
  type := alike.type
  literal := .inl rfl
  value environment fits := by rw [Expr.valueIn, Expr.valueIn, alike.value environment fits]

theorem binary (lefts : exchange.Alike left left') (rights : exchange.Alike right right')
    (op : BinaryOp) (type : ValueType ρ) :
    exchange.Alike (.binary op type left right) (.binary op type left' right') where
  type := rfl
  literal := .inl rfl
  value environment fits := by
    rw [Expr.valueIn, Expr.valueIn, lefts.value environment fits, rights.value environment fits]

theorem pattern {op : PatternOp} {regex? regex?' : Option Regex.Pattern}
    (lefts : exchange.Alike left left') (rights : exchange.Alike right right')
    (written : Expr.readRegex op right = .ok regex?)
    (written' : Expr.readRegex op right' = .ok regex?') :
    exchange.Alike (.pattern op regex? left right) (.pattern op regex?' left' right') where
  type := rfl
  literal := .inl rfl
  value environment fits := by
    rw [Expr.valueIn_pattern written, Expr.valueIn_pattern written', lefts.value environment fits,
      rights.value environment fits]

theorem nested (sources : exchange.Alike left left') (predicates : exchange.Alike right right')
    (quantifier : Quantifier) (depth : Nat) :
    exchange.Alike (.nested quantifier depth left right) (.nested quantifier depth left' right')
    where
  type := rfl
  literal := .inl rfl
  value environment fits := by
    rw [Expr.valueIn, Expr.valueIn, sources.value environment fits]
    congr 1
    funext element
    rw [predicates.value _ (fits.cons element)]

theorem valuesIn {arguments arguments' : List (Expr ρ)}
    (alike : List.Forall₂ exchange.Alike arguments arguments') {environment : List (Value ρ)}
    (fits : exchange.Fits environment) :
    Expr.valuesIn environment arguments' = Expr.valuesIn environment arguments := by
  induction alike with
  | nil => rfl
  | cons first _ ih => rw [Expr.valuesIn, Expr.valuesIn, first.value environment fits, ih]

theorem call {function : Function} {arguments arguments' : List (Expr ρ)} {whole whole' : Expr ρ}
    (alike : List.Forall₂ exchange.Alike arguments arguments')
    (builds : Expr.callOf function arguments = .ok whole)
    (builds' : Expr.callOf function arguments' = .ok whole')
    (literal : whole'.literal? = whole.literal? ∨ whole'.literal? = none) :
    exchange.Alike whole whole' where
  type := by rw [Expr.type_of_callOf builds, Expr.type_of_callOf builds']
  literal := by
    rcases literal with same | none
    · exact .inl same
    · refine .inr (.inr ⟨none, ?_⟩)
      rw [Expr.type_of_callOf builds]
      cases function <;> nofun
  value environment fits := by
    rw [Expr.valueIn_of_callOf builds, Expr.valueIn_of_callOf builds', valuesIn alike fits]

end Alike

/-! ## Builders -/

variable {left left' right right' : Expr ρ}

variable (exchange)

/-- A query fails with a cause, and the other one with this tree shows why.  A part of the tree
compares with a pattern that is no regular expression, and the member holds it; or it calls a
function with the member among the arguments, and the function rejects what they hold. -/
inductive Blames (whole : Expr ρ) : Cause → Prop
  | pattern {op : PatternOp} {left : Expr ρ} {fault : Regex.Fault}
      (part : (Expr.pattern op none left exchange.reference).PartOf whole)
      (is_regex : op.isRegex = true)
      (invalid : Regex.Pattern.ofChars exchange.text.toList = .error fault) :
      Blames whole (.invalidPattern fault)
  | call {function : Function} {arguments : List (Expr ρ)} {fault : ReadingFault}
      (part : (Expr.call function arguments).PartOf whole)
      (mem : exchange.reference ∈ arguments)
      (rejects : ∀ environment, exchange.Fits environment →
        function.apply (Expr.valuesIn environment arguments) = .error fault) :
      Blames whole (.rejectedArgument fault)

/-- A builder gives a tree that is alike to one on the other side, or fails and that one shows
why. -/
def Settles (whole : Expr ρ) (result : Except Cause (Expr ρ)) : Prop :=
  (∃ built, result = .ok built ∧ exchange.Alike built whole) ∨
    ∃ cause, result = .error cause ∧ exchange.Blames whole cause

variable {exchange}

theorem Blames.mono {part whole : Expr ρ} {cause : Cause} (blames : exchange.Blames part cause)
    (inside : part.PartOf whole) : exchange.Blames whole cause := by
  cases blames with
  | pattern at_ is_regex invalid => exact .pattern (at_.trans inside) is_regex invalid
  | call at_ mem rejects => exact .call (at_.trans inside) mem rejects

/-- Where the pattern on one side can be read, so can the one that was exchanged for it. -/
theorem Alike.exists_readRegex {op : PatternOp} {regex? : Option Regex.Pattern}
    (rights : exchange.Alike right right') (text : right.type = .string)
    (written : Expr.readRegex op right = .ok regex?) :
    ∃ regex?', Expr.readRegex op right' = .ok regex?' := by
  rcases rights.text_cases text with same | ⟨rfl, rfl⟩
  · exact ⟨regex?, (Expr.readRegex_congr same).trans written⟩
  · exact ⟨none, readRegex_reference op⟩

theorem ofUnary_forward {op : UnaryOp} {symbol : String} {whole : Expr ρ}
    (alike : exchange.Alike left left') (builds : Expr.ofUnary op symbol left = .ok whole) :
    ∃ whole', Expr.ofUnary op symbol left' = .ok whole' ∧ exchange.Alike whole whole' := by
  obtain ⟨takes, rfl⟩ := Expr.ofUnary_eq_ok_iff.1 builds
  rw [← alike.type] at takes
  exact ⟨_, Expr.ofUnary_eq_ok_iff.2 ⟨takes, rfl⟩, alike.unary op⟩

theorem ofUnary_backward {op : UnaryOp} {symbol : String} {whole' : Expr ρ}
    (alike : exchange.Alike left left') (builds' : Expr.ofUnary op symbol left' = .ok whole') :
    ∃ whole, Expr.ofUnary op symbol left = .ok whole ∧ exchange.Alike whole whole' := by
  obtain ⟨takes, rfl⟩ := Expr.ofUnary_eq_ok_iff.1 builds'
  rw [alike.type] at takes
  exact ⟨_, Expr.ofUnary_eq_ok_iff.2 ⟨takes, rfl⟩, alike.unary op⟩

theorem ofBinary_forward {entry : BinaryEntry} {whole : Expr ρ}
    (lefts : exchange.Alike left left') (rights : exchange.Alike right right')
    (builds : Expr.ofBinary entry left right = .ok whole) :
    ∃ whole', Expr.ofBinary entry left' right' = .ok whole' ∧ exchange.Alike whole whole' := by
  rcases Expr.ofBinary_eq_ok_iff.1 builds with
    ⟨op, type, operator, gives, rfl⟩ |
    ⟨op, regex?, operator, left_text, right_text, written, rfl⟩
  · rw [← lefts.type, ← rights.type] at gives
    exact ⟨_, Expr.ofBinary_eq_ok_iff.2 (.inl ⟨op, type, operator, gives, rfl⟩),
      lefts.binary rights op type⟩
  · obtain ⟨regex?', written'⟩ := rights.exists_readRegex right_text written
    exact ⟨_, Expr.ofBinary_eq_ok_iff.2 (.inr ⟨op, regex?', operator, lefts.type.trans left_text,
      rights.type.trans right_text, written', rfl⟩), lefts.pattern rights written written'⟩

theorem ofBinary_backward {entry : BinaryEntry} {whole' : Expr ρ}
    (lefts : exchange.Alike left left') (rights : exchange.Alike right right')
    (builds : Expr.ofBinary entry left' right' = .ok whole') :
    exchange.Settles whole' (Expr.ofBinary entry left right) := by
  rcases Expr.ofBinary_eq_ok_iff.1 builds with
    ⟨op, type, operator, gives, rfl⟩ |
    ⟨op, regex?', operator, left_text, right_text, written', rfl⟩
  · rw [lefts.type, rights.type] at gives
    exact .inl ⟨_, Expr.ofBinary_eq_ok_iff.2 (.inl ⟨op, type, operator, gives, rfl⟩),
      lefts.binary rights op type⟩
  · rw [lefts.type] at left_text
    rw [rights.type] at right_text
    have joined : ∀ regex?, Expr.readRegex op right = .ok regex? →
        exchange.Settles (.pattern op regex?' left' right') (Expr.ofBinary entry left right) :=
      fun regex? written => .inl ⟨_, Expr.ofBinary_eq_ok_iff.2
        (.inr ⟨op, regex?, operator, left_text, right_text, written, rfl⟩),
        lefts.pattern rights written written'⟩
    rcases rights.text_cases right_text with same | ⟨rfl, rfl⟩
    · exact joined regex?' ((Expr.readRegex_congr same).symm.trans written')
    · rcases Expr.readRegex_literal_cases op exchange.text with
        ⟨regex?, written⟩ | ⟨fault, fails, is_regex, invalid⟩
      · exact joined regex? written
      · obtain rfl : none = regex?' :=
          Except.ok.inj ((readRegex_reference op).symm.trans written')
        refine .inr ⟨.invalidPattern fault, ?_, .pattern .whole is_regex invalid⟩
        rw [Expr.ofBinary_pattern operator left_text right_text, fails]
        rfl

section Calls

variable {function : Function} {arguments arguments' : List (Expr ρ)}

/-- Texts on the two sides are the same literals, or not all of them are literals on the second
side, and one was exchanged. -/
theorem Alike.mapM_literal?_cases (alike : List.Forall₂ exchange.Alike arguments arguments')
    (texts : ∀ argument ∈ arguments, argument.type = .string) :
    arguments'.mapM Expr.literal? = arguments.mapM Expr.literal? ∨
      (arguments'.mapM Expr.literal? = none ∧ exchange.reference ∈ arguments') := by
  induction alike with
  | nil => exact .inl rfl
  | @cons argument argument' arguments arguments' first _ ih =>
      obtain ⟨text, texts⟩ := List.forall_mem_cons.1 texts
      simp only [List.mapM_cons]
      rcases first.text_cases text with same | ⟨rfl, rfl⟩
      · rcases ih texts with others | ⟨none, mem⟩
        · exact .inl (by rw [same, others])
        · refine .inr ⟨?_, List.mem_cons_of_mem _ mem⟩
          rw [none]
          cases argument'.literal? <;> rfl
      · exact .inr ⟨rfl, List.mem_cons_self⟩

theorem callOf_forward {whole : Expr ρ}
    (alike : List.Forall₂ exchange.Alike arguments arguments')
    (texts : ∀ argument ∈ arguments, argument.type = .string)
    (builds : Expr.callOf function arguments = .ok whole) :
    ∃ whole', Expr.callOf function arguments' = .ok whole' ∧ exchange.Alike whole whole' := by
  rcases Alike.mapM_literal?_cases alike texts with same | ⟨open', _⟩
  · cases all : arguments.mapM Expr.literal? with
    | some literals =>
        have builds' : Expr.callOf function arguments' = .ok whole := by
          rw [Expr.callOf_of_literals (same.trans all), ← Expr.callOf_of_literals all, builds]
        exact ⟨whole, builds', .call alike builds builds' (.inl rfl)⟩
    | none =>
        have builds' := Expr.callOf_of_open function (same.trans all)
        cases (Expr.callOf_of_open function all).symm.trans builds
        exact ⟨_, builds', .call alike builds builds' (.inl rfl)⟩
  · have builds' := Expr.callOf_of_open function open'
    exact ⟨_, builds', .call alike builds builds' (.inr rfl)⟩

theorem callOf_backward {whole' : Expr ρ}
    (alike : List.Forall₂ exchange.Alike arguments arguments')
    (texts : ∀ argument ∈ arguments, argument.type = .string)
    (builds' : Expr.callOf function arguments' = .ok whole') :
    exchange.Settles whole' (Expr.callOf function arguments) := by
  rcases Alike.mapM_literal?_cases alike texts with same | ⟨open', mem⟩
  · cases all : arguments.mapM Expr.literal? with
    | some literals =>
        have builds : Expr.callOf function arguments = .ok whole' := by
          rw [Expr.callOf_of_literals all, ← Expr.callOf_of_literals (same.trans all), builds']
        exact .inl ⟨_, builds, .call alike builds builds' (.inl rfl)⟩
    | none =>
        have builds := Expr.callOf_of_open function all
        cases (Expr.callOf_of_open function (same.trans all)).symm.trans builds'
        exact .inl ⟨_, builds, .call alike builds builds' (.inl rfl)⟩
  · cases (Expr.callOf_of_open function open').symm.trans builds'
    cases all : arguments.mapM Expr.literal? with
    | none =>
        have builds := Expr.callOf_of_open function all
        exact .inl ⟨_, builds, .call alike builds builds' (.inr rfl)⟩
    | some literals =>
        rw [Expr.callOf_of_literals all]
        rcases Expr.fold_cases (ρ := ρ) function literals with
          ⟨literal, folds, _, _⟩ | ⟨fault, fails, rejects⟩
        · have builds := (Expr.callOf_of_literals all).trans folds
          exact .inl ⟨_, folds, .call alike builds builds' (.inr rfl)⟩
        · refine .inr ⟨.rejectedArgument fault, fails, .call .whole mem fun environment fits => ?_⟩
          rw [Alike.valuesIn alike fits, Expr.valuesIn_of_mapM_literal? all, rejects]

theorem texts_iff (alike : List.Forall₂ exchange.Alike arguments arguments') :
    (∀ argument ∈ arguments', argument.type = .string) ↔
      ∀ argument ∈ arguments, argument.type = .string := by
  induction alike with
  | nil => exact Iff.rfl
  | cons first _ ih => rw [List.forall_mem_cons, List.forall_mem_cons, first.type, ih]

theorem ofCall_forward {name : String} {whole : Expr ρ}
    (alike : List.Forall₂ exchange.Alike arguments arguments')
    (builds : Expr.ofCall name arguments = .ok whole) :
    ∃ whole', Expr.ofCall name arguments' = .ok whole' ∧ exchange.Alike whole whole' := by
  obtain ⟨function, resolves, texts, builds⟩ := Expr.ofCall_eq_ok_iff.1 builds
  obtain ⟨whole', builds', alike'⟩ := callOf_forward alike texts builds
  rw [alike.length_eq] at resolves
  exact ⟨whole', Expr.ofCall_eq_ok_iff.2 ⟨function, resolves, (texts_iff alike).2 texts, builds'⟩,
    alike'⟩

theorem ofCall_backward {name : String} {whole' : Expr ρ}
    (alike : List.Forall₂ exchange.Alike arguments arguments')
    (builds' : Expr.ofCall name arguments' = .ok whole') :
    exchange.Settles whole' (Expr.ofCall name arguments) := by
  obtain ⟨function, resolves, texts, builds'⟩ := Expr.ofCall_eq_ok_iff.1 builds'
  rw [← alike.length_eq] at resolves
  rw [Expr.ofCall_eq_callOf resolves ((texts_iff alike).1 texts)]
  exact callOf_backward alike ((texts_iff alike).1 texts) builds'

end Calls

end Exchange

end RecordQuery
