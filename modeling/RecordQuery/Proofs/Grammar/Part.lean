import RecordQuery.Proofs.Typing.Tree

/-!
# Parts of trees

What the parser has built stays a part of what it builds from it: an expression of the expression
with its members, a left operand of everything that is joined to it, a source of the question about
it (`Reads.keeps`).  Nothing that was built is dropped later, except that calls of literals are
carried out.
-/

set_option autoImplicit false

namespace RecordQuery

variable {ρ : Type}

/-- An expression is a part of another one, or all of it. -/
inductive Expr.PartOf (part : Expr ρ) : Expr ρ → Prop
  | whole : PartOf part part
  | base {base : Expr ρ} {read : Member ρ} (inside : PartOf part base) :
      PartOf part (.member base read)
  | operand {op : UnaryOp} {operand : Expr ρ} (inside : PartOf part operand) :
      PartOf part (.unary op operand)
  | left {op : BinaryOp} {type : ValueType ρ} {left right : Expr ρ} (inside : PartOf part left) :
      PartOf part (.binary op type left right)
  | right {op : BinaryOp} {type : ValueType ρ} {left right : Expr ρ}
      (inside : PartOf part right) : PartOf part (.binary op type left right)
  | text {op : PatternOp} {regex? : Option Regex.Pattern} {left right : Expr ρ}
      (inside : PartOf part left) : PartOf part (.pattern op regex? left right)
  | written {op : PatternOp} {regex? : Option Regex.Pattern} {left right : Expr ρ}
      (inside : PartOf part right) : PartOf part (.pattern op regex? left right)
  | argument {function : Function} {arguments : List (Expr ρ)} {argument : Expr ρ}
      (mem : argument ∈ arguments) (inside : PartOf part argument) :
      PartOf part (.call function arguments)
  | source {quantifier : Quantifier} {depth : Nat} {source predicate : Expr ρ}
      (inside : PartOf part source) : PartOf part (.nested quantifier depth source predicate)
  | predicate {quantifier : Quantifier} {depth : Nat} {source predicate : Expr ρ}
      (inside : PartOf part predicate) : PartOf part (.nested quantifier depth source predicate)

namespace Expr.PartOf

variable {part middle whole : Expr ρ}

theorem trans (inner : part.PartOf middle) (outer : middle.PartOf whole) : part.PartOf whole := by
  induction outer with
  | whole => exact inner
  | base _ ih => exact .base ih
  | operand _ ih => exact .operand ih
  | left _ ih => exact .left ih
  | right _ ih => exact .right ih
  | text _ ih => exact .text ih
  | written _ ih => exact .written ih
  | argument mem _ ih => exact .argument mem ih
  | source _ ih => exact .source ih
  | predicate _ ih => exact .predicate ih

theorem of_ofMember {base : Expr ρ} {name : String} (builds : base.ofMember name = .ok whole) :
    base.PartOf whole := by
  obtain ⟨_, _, rfl⟩ := Expr.ofMember_eq_ok_iff.1 builds
  exact .base .whole

theorem of_ofUnary {op : UnaryOp} {symbol : String} {operand : Expr ρ}
    (builds : Expr.ofUnary op symbol operand = .ok whole) : operand.PartOf whole := by
  obtain ⟨_, rfl⟩ := Expr.ofUnary_eq_ok_iff.1 builds
  exact .operand .whole

theorem of_ofBinary {entry : BinaryEntry} {left right : Expr ρ}
    (builds : Expr.ofBinary entry left right = .ok whole) :
    left.PartOf whole ∧ right.PartOf whole := by
  rcases Expr.ofBinary_eq_ok_iff.1 builds with ⟨_, _, _, _, rfl⟩ | ⟨_, _, _, _, _, _, rfl⟩
  · exact ⟨.left .whole, .right .whole⟩
  · exact ⟨.text .whole, .written .whole⟩

end Expr.PartOf

/-- What a phrase goes on from is a part of what it builds. -/
def Phrase.Keeps : Phrase ρ → Prop
  | .suffixes base whole => base.PartOf whole
  | .continuation _ _ left whole => left.PartOf whole
  | .question _ _ source whole => source.PartOf whole
  | .expression _ _ _ | .primary _ _ | .arguments _ _ | .listed _ _ => True

theorem Reads.keeps {now : DateTime} {phrase : Phrase ρ} {text rest : List Char}
    (derivation : Reads now phrase text rest) : phrase.Keeps := by
  induction derivation with
  | noSuffix | stop => exact .whole
  | suffix _ _ _ _ resolves _ ih => exact (Expr.PartOf.of_ofMember resolves).trans ih
  | asked _ _ _ _ ihQuestion ihContinuation => exact ihQuestion.trans ihContinuation
  | operator _ _ _ _ _ builds _ _ ih => exact (Expr.PartOf.of_ofBinary builds).1.trans ih
  | question => exact .source .whole
  | _ => trivial

end RecordQuery
