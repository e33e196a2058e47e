import RecordQuery.Proofs.Grammar.Word

/-!
# Derivations

The grammar of queries as a relation between texts.  `Reads now phrase text rest` says that a
phrase stands at the front of `text` and that `rest` is left behind it.  There is one kind of
phrase for each reader of the parser and one rule for each way in which a reader succeeds, so
that what holds of every tree the parser builds is shown by induction on derivations, without
cursors, positions and errors.

A phrase carries the tree that was built, and the rules ask the builders of expressions for it.
So a derivation is about well-typed trees only.
-/

set_option autoImplicit false

namespace RecordQuery

/-- What a reader of the parser looks for, with the tree that it builds. -/
inductive Phrase (ρ : Type) where
  /-- Members read off `base`. -/
  | suffixes (base whole : Expr ρ)
  /-- An expression whose binary operators bind tighter than the floor. -/
  | expression (scope : Scope ρ) (floor : Int) (whole : Expr ρ)
  /-- An expression without operators behind its first part. -/
  | primary (scope : Scope ρ) (whole : Expr ρ)
  /-- The arguments of a call with their parentheses. -/
  | arguments (scope : Scope ρ) (values : List (Expr ρ))
  /-- Expressions with commas between them. -/
  | listed (scope : Scope ρ) (values : List (Expr ρ))
  /-- Questions and operators behind `left`. -/
  | continuation (scope : Scope ρ) (floor : Int) (left whole : Expr ρ)
  /-- The braces of a question about the elements of `source`. -/
  | question (scope : Scope ρ) (keyword : String) (source whole : Expr ρ)

open Word in
/-- A phrase stands at the front of the first text, and the second text is left behind it. -/
inductive Reads {ρ : Type} (now : DateTime) : Phrase ρ → List Char → List Char → Prop
  /-- No dot follows, so no member is read. -/
  | noSuffix {base : Expr ρ} {text after : List Char} {word : Word}
      (next : read? text = some (word, after)) (other : word.kind ≠ .mark .dot) :
      Reads now (.suffixes base base) text text
  | suffix {base owner whole : Expr ρ} {text afterDot afterName rest : List Char} {dot name : Word}
      (point : read? text = some (dot, afterDot)) (isDot : dot.kind = .mark .dot)
      (named : read? afterDot = some (name, afterName)) (isName : name.kind = .identifier)
      (resolves : base.ofMember name.lexeme = .ok owner)
      (more : Reads now (.suffixes owner whole) afterName rest) :
      Reads now (.suffixes base whole) text rest
  | expression {scope : Scope ρ} {floor : Int} {first left whole : Expr ρ}
      {text afterFirst afterLeft rest : List Char}
      (primary : Reads now (.primary scope first) text afterFirst)
      (suffixes : Reads now (.suffixes first left) afterFirst afterLeft)
      (continuation : Reads now (.continuation scope floor left whole) afterLeft rest) :
      Reads now (.expression scope floor whole) text rest
  /-- A name before a parenthesis calls a function. -/
  | call {scope : Scope ρ} {values : List (Expr ρ)} {whole : Expr ρ}
      {text afterName after rest : List Char} {name next : Word}
      (named : read? text = some (name, afterName)) (isName : name.kind = .identifier)
      (opens : read? afterName = some (next, after)) (isOpen : next.kind = .mark .parenthesisOpen)
      (arguments : Reads now (.arguments scope values) afterName rest)
      (builds : Expr.ofCall name.lexeme values = .ok whole) :
      Reads now (.primary scope whole) text rest
  /-- A name alone is a member of the innermost input. -/
  | name {scope : Scope ρ} {whole : Expr ρ} {text rest after : List Char} {name next : Word}
      (named : read? text = some (name, rest)) (isName : name.kind = .identifier)
      (follows : read? rest = some (next, after)) (other : next.kind ≠ .mark .parenthesisOpen)
      (resolves : scope.input.ofMember name.lexeme = .ok whole) :
      Reads now (.primary scope whole) text rest
  | now {scope : Scope ρ} {text rest : List Char} {word : Word}
      (reads : read? text = some (word, rest)) (isNow : word.kind = .now) :
      Reads now (.primary scope (.literal (.dateTime now))) text rest
  /-- A run of `$` is one of the inputs in scope. -/
  | input {scope : Scope ρ} {whole : Expr ρ} {text rest : List Char} {run : Word}
      (reads : read? text = some (run, rest)) (isRun : run.kind = .input)
      (resolves : scope.inputOf run.lexeme = .ok whole) :
      Reads now (.primary scope whole) text rest
  | literal {scope : Scope ρ} {value : Literal} {text rest : List Char} {word : Word}
      (reads : read? text = some (word, rest)) (isLiteral : word.kind = .literal)
      (carries : word.literal? = some value) :
      Reads now (.primary scope (.literal value)) text rest
  | group {scope : Scope ρ} {inner : Expr ρ} {text afterOpen afterInner rest : List Char}
      {opening closing : Word}
      (opens : read? text = some (opening, afterOpen))
      (isOpen : opening.kind = .mark .parenthesisOpen)
      (expression : Reads now (.expression scope lowestPrecedence inner) afterOpen afterInner)
      (closes : read? afterInner = some (closing, rest))
      (isClose : closing.kind = .mark .parenthesisClose) :
      Reads now (.primary scope inner) text rest
  /-- The operand of a unary operator reaches as far as it can. -/
  | unary {scope : Scope ρ} {operand whole : Expr ρ} {text afterMark rest : List Char}
      {word : Word} {mark : Mark} {op : UnaryOp}
      (reads : read? text = some (word, afterMark)) (isMark : word.kind = .mark mark)
      (prefixes : mark.unary? = some op)
      (expression : Reads now (.expression scope lowestPrecedence operand) afterMark rest)
      (builds : Expr.ofUnary op word.lexeme operand = .ok whole) :
      Reads now (.primary scope whole) text rest
  | noArguments {scope : Scope ρ} {text afterOpen rest : List Char} {opening closing : Word}
      (opens : read? text = some (opening, afterOpen))
      (isOpen : opening.kind = .mark .parenthesisOpen)
      (closes : read? afterOpen = some (closing, rest))
      (isClose : closing.kind = .mark .parenthesisClose) :
      Reads now (.arguments scope []) text rest
  | arguments {scope : Scope ρ} {values : List (Expr ρ)}
      {text afterOpen after afterValues rest : List Char} {opening next closing : Word}
      (opens : read? text = some (opening, afterOpen))
      (isOpen : opening.kind = .mark .parenthesisOpen)
      (follows : read? afterOpen = some (next, after))
      (other : next.kind ≠ .mark .parenthesisClose)
      (listed : Reads now (.listed scope values) afterOpen afterValues)
      (closes : read? afterValues = some (closing, rest))
      (isClose : closing.kind = .mark .parenthesisClose) :
      Reads now (.arguments scope values) text rest
  | last {scope : Scope ρ} {value : Expr ρ} {text rest after : List Char} {next : Word}
      (expression : Reads now (.expression scope lowestPrecedence value) text rest)
      (follows : read? rest = some (next, after)) (other : next.kind ≠ .mark .comma) :
      Reads now (.listed scope [value]) text rest
  | cons {scope : Scope ρ} {value : Expr ρ} {values : List (Expr ρ)}
      {text afterValue afterComma rest : List Char} {comma : Word}
      (expression : Reads now (.expression scope lowestPrecedence value) text afterValue)
      (separates : read? afterValue = some (comma, afterComma))
      (isComma : comma.kind = .mark .comma)
      (listed : Reads now (.listed scope values) afterComma rest) :
      Reads now (.listed scope (value :: values)) text rest
  /-- The next word begins no question and no operator that binds tighter than the floor. -/
  | stop {scope : Scope ρ} {floor : Int} {left : Expr ρ} {text after : List Char} {next : Word}
      (follows : read? text = some (next, after)) (stops : next.Stops floor) :
      Reads now (.continuation scope floor left left) text text
  | asked {scope : Scope ρ} {floor : Int} {left answered whole : Expr ρ}
      {text afterWord afterBlock rest : List Char} {keyword : Word}
      (reads : read? text = some (keyword, afterWord)) (isKeyword : keyword.kind = .quantifier)
      (question : Reads now (.question scope keyword.lexeme left answered) afterWord afterBlock)
      (continuation : Reads now (.continuation scope floor answered whole) afterBlock rest) :
      Reads now (.continuation scope floor left whole) text rest
  /-- The right operand of an operator is read with the precedence of the operator as its
  floor, and what was joined is the left operand of what follows. -/
  | operator {scope : Scope ρ} {floor : Int} {left right joined whole : Expr ρ}
      {text afterMark afterRight rest : List Char} {word : Word} {mark : Mark} {entry : BinaryEntry}
      (reads : read? text = some (word, afterMark)) (isMark : word.kind = .mark mark)
      (joins : mark.binary? = some entry) (binds : floor < entry.precedence)
      (expression : Reads now (.expression scope entry.precedence right) afterMark afterRight)
      (builds : Expr.ofBinary entry left right = .ok joined)
      (continuation : Reads now (.continuation scope floor joined whole) afterRight rest) :
      Reads now (.continuation scope floor left whole) text rest
  /-- In the braces the elements are the innermost input. -/
  | question {scope : Scope ρ} {keyword : String} {source predicate : Expr ρ}
      {element : ValueType ρ} {text afterOpen afterBlock rest : List Char} {opening closing : Word}
      (sequence : source.type.element? = some element)
      (opens : read? text = some (opening, afterOpen)) (isOpen : opening.kind = .mark .blockOpen)
      (expression :
        Reads now (.expression (scope.enter element) lowestPrecedence predicate) afterOpen
          afterBlock)
      (boolean : predicate.type.isBoolean = true)
      (closes : read? afterBlock = some (closing, rest))
      (isClose : closing.kind = .mark .blockClose) :
      Reads now
        (.question scope keyword source
          (.nested ((Quantifier.ofWord? keyword).getD .any) (scope.depth + 1) source predicate))
        text rest

/-! ## Where expressions begin and end -/

theorem Reads.exists_first {ρ : Type} {now : DateTime} {scope : Scope ρ} {whole : Expr ρ}
    {text rest : List Char} (derivation : Reads now (.primary scope whole) text rest) :
    ∃ word after, Word.read? text = some (word, after) := by
  cases derivation with
  | call reads | name reads | now reads | input reads | literal reads | group reads
  | unary reads => exact ⟨_, _, reads⟩

theorem Reads.exists_next {ρ : Type} {now : DateTime} {base whole : Expr ρ} {text rest : List Char}
    (derivation : Reads now (.suffixes base whole) text rest) :
    ∃ word after, Word.read? text = some (word, after) := by
  cases derivation with
  | noSuffix next | suffix next => exact ⟨_, _, next⟩

/-- An expression ends before a word that stops it. -/
def Phrase.EndsBefore {ρ : Type} (rest : List Char) : Phrase ρ → Prop
  | .expression _ floor _ | .continuation _ floor _ _ =>
      ∃ word after, Word.read? rest = some (word, after) ∧ word.Stops floor
  | _ => True

theorem Reads.endsBefore {ρ : Type} {now : DateTime} {phrase : Phrase ρ} {text rest : List Char}
    (derivation : Reads now phrase text rest) : phrase.EndsBefore rest := by
  induction derivation with
  | expression _ _ _ _ _ ih => exact ih
  | stop follows stops => exact ⟨_, _, follows, stops⟩
  | asked _ _ _ _ _ ih => exact ih
  | operator _ _ _ _ _ _ _ _ ih => exact ih
  | _ => trivial

end RecordQuery
