import RecordQuery.Json.Basic
import RecordQuery.Proofs.Scoping.Shift
import RecordQuery.Proofs.Scoping.Tail

/-!
# A block is a query of its own

The text between the braces of a question can be compiled alone, as a query for the elements that
the question asks about.  Wherever the question stands, it then compiles too, and its answer is
what the query says about each element (`block_answers_query`).

The two compilations do not build the same tree.  Inside the block every depth is greater by the
number of inputs around it (`Reads.under`), the text ends before a brace instead of at its end
(`Reads.append`), and the elements are the innermost input of many
(`Expr.Typed.valueIn_shift`).
-/

set_option autoImplicit false

namespace RecordQuery

open Word (read? AtEnd)

variable {ρ : Type} {now : DateTime}

/-! ## Words of a block -/

/-- The brace at the end of a block. -/
def Word.closing : Word := ⟨.mark .blockClose, "\x7d", none⟩

theorem Word.read?_closing (text : List Char) :
    read? (' ' :: '\x7d' :: text) = some (closing, text) := rfl

theorem Word.stops_closing (floor : Int) : closing.Stops floor := by
  refine ⟨nofun, ?_⟩
  rintro mark entry ⟨⟩ ⟨⟩

theorem Word.read?_opening (text : List Char) :
    read? (' ' :: '\x7b' :: text) = some (⟨.mark .blockOpen, "\x7b", none⟩, text) := rfl

theorem Word.read?_blank (text : List Char) : read? (' ' :: text) = read? text := rfl

theorem Quantifier.read?_word (quantifier : Quantifier) :
    read? (' ' :: quantifier.word.toList) = some (⟨.quantifier, quantifier.word, none⟩, []) := by
  cases quantifier <;> rfl

theorem Quantifier.ofWord?_word (quantifier : Quantifier) :
    ofWord? quantifier.word = some quantifier := by
  cases quantifier <;> rfl

/-- An expression up to the end of a text is one up to a brace behind the text. -/
theorem Reads.before_closing {scope : Scope ρ} {floor : Int} {whole : Expr ρ}
    {text rest : List Char} (derivation : Reads now (.expression scope floor whole) text rest)
    (ends : AtEnd rest) (more : List Char) :
    ∃ left, Reads now (.expression scope floor whole) (text ++ ' ' :: '\x7d' :: more) left ∧
      read? left = some (Word.closing, more) := by
  have closes := Word.read?_closing more
  have before := derivation.append (Word.keeps_of_apart (.intro rfl)) closes (by decide)
    fun _ _ => Word.stops_closing
  exact ⟨_, before, (Word.read?_append_of_atEnd ends).trans closes⟩

/-! ## Texts that compile in a scope -/

/-- A text up to its end is an expression in a scope. -/
def Scope.Compiles (now : DateTime) (scope : Scope ρ) (text : String) (whole : Expr ρ) : Prop :=
  ∃ read, Parser.expression now scope lowestPrecedence (Cursor.start text) = .ok read ∧
    read.value = whole ∧ AtEnd read.next.rest

/-- A text up to the brace behind it is an expression in a scope. -/
def Scope.CompilesInBlock (now : DateTime) (scope : Scope ρ) (text : String) (whole : Expr ρ) :
    Prop :=
  ∀ (cursor : Cursor) (more : List Char), cursor.rest = text.toList ++ ' ' :: '\x7d' :: more →
    ∃ read, Parser.expression now scope lowestPrecedence cursor = .ok read ∧
      read.value = whole ∧ read? read.next.rest = some (Word.closing, more)

namespace Scope

variable {scope : Scope ρ} {text : String} {whole : Expr ρ}

theorem compiles_iff :
    scope.Compiles now text whole ↔
      ∃ rest, Reads now (.expression scope lowestPrecedence whole) text.toList rest ∧
        AtEnd rest := by
  constructor
  · rintro ⟨read, returns, rfl, ends⟩
    exact ⟨_, Parser.expression_sound returns, ends⟩
  · rintro ⟨rest, derivation, ends⟩
    obtain ⟨read, returns, same, rfl⟩ := Parser.parses_of_reads derivation (.start text) rfl
    exact ⟨read, returns, same, ends⟩

theorem Compiles.in_block (compiles : scope.Compiles now text whole) :
    scope.CompilesInBlock now text whole := by
  intro cursor more stands
  obtain ⟨rest, derivation, ends⟩ := compiles_iff.1 compiles
  obtain ⟨left, before, closes⟩ := derivation.before_closing ends more
  obtain ⟨read, returns, same, rfl⟩ := Parser.parses_of_reads before cursor stands
  exact ⟨read, returns, same, closes⟩

end Scope

/-! ## Questions in a text -/

/-- The text of a question: a source, the word of the question, and a query in braces. -/
def Quantifier.block (quantifier : Quantifier) (source query : String) : String :=
  source ++ " " ++ quantifier.word ++ " \x7b " ++ query ++ " \x7d"

theorem Quantifier.toList_block (quantifier : Quantifier) (source query : String) :
    (quantifier.block source query).toList =
      source.toList ++ (' ' :: quantifier.word.toList ++
        ' ' :: '\x7b' :: ' ' :: (query.toList ++ [' ', '\x7d'])) := by
  simp [block, List.append_assoc]

section Derivations

variable {scope : Scope ρ} {element : ValueType ρ} {source predicate : Expr ρ} {query : String}

/-- The braces of a question hold an expression for the elements of its source. -/
theorem Reads.braces (quantifier : Quantifier) (sequence : source.type = .sequence element)
    (compiles : (scope.enter element).Compiles now query predicate)
    (boolean : predicate.type = .boolean) (more : List Char) :
    Reads now
      (.question scope quantifier.word source
        (.nested quantifier (scope.depth + 1) source predicate))
      (' ' :: '\x7b' :: ' ' :: (query.toList ++ ' ' :: '\x7d' :: more)) more := by
  obtain ⟨_, alone, ends⟩ := Scope.compiles_iff.1 compiles
  obtain ⟨rest, inside, closes⟩ := alone.before_closing ends more
  have question : Reads now (.question scope quantifier.word source _) _ _ := Reads.question
    (ValueType.element?_eq_some_iff.2 sequence) (Word.read?_opening _) rfl
    (inside.expression_of_read?_eq (Word.read?_blank _))
    (ValueType.isBoolean_eq_true_iff.2 boolean) closes rfl
  rw [quantifier.ofWord?_word] at question
  exact question

/-- A source and an expression for its elements make a question about the source.  What stands
behind the question goes on with it. -/
theorem Reads.block_then (quantifier : Quantifier) {text : String} {rest more left : List Char}
    {whole : Expr ρ}
    (expression : Reads now (.expression scope lowestPrecedence source) text.toList rest)
    (ends : AtEnd rest) (sequence : source.type = .sequence element)
    (compiles : (scope.enter element).Compiles now query predicate)
    (boolean : predicate.type = .boolean)
    (continuation : Reads now
      (.continuation scope lowestPrecedence
        (.nested quantifier (scope.depth + 1) source predicate) whole) more left) :
    Reads now (.expression scope lowestPrecedence whole)
      ((quantifier.block text query).toList ++ more) left := by
  generalize behind : ' ' :: '\x7b' :: ' ' :: (query.toList ++ ' ' :: '\x7d' :: more) = afterWord
  have apart : Text.Apart afterWord := behind ▸ .intro rfl
  have reads : read? (' ' :: quantifier.word.toList ++ afterWord) =
      some (⟨.quantifier, quantifier.word, none⟩, afterWord) :=
    Word.read?_append apart quantifier.read?_word nofun
  have braces := Reads.braces quantifier sequence compiles boolean more
  have split : (quantifier.block text query).toList ++ more =
      text.toList ++ (' ' :: quantifier.word.toList ++ afterWord) := by
    rw [quantifier.toList_block, ← behind]
    simp only [List.append_assoc, List.cons_append, List.nil_append]
  rw [split]
  rw [behind] at braces
  refine expression.ask ends sequence ?_ reads rfl braces continuation
  cases quantifier <;> exact .intro rfl

theorem Reads.block_of_compiles (quantifier : Quantifier) {text : String} {rest : List Char}
    (expression : Reads now (.expression scope lowestPrecedence source) text.toList rest)
    (ends : AtEnd rest) (sequence : source.type = .sequence element)
    (compiles : (scope.enter element).Compiles now query predicate)
    (boolean : predicate.type = .boolean) :
    Reads now
      (.expression scope lowestPrecedence (.nested quantifier (scope.depth + 1) source predicate))
      (quantifier.block text query).toList [] := by
  have asked := expression.block_then quantifier ends sequence compiles boolean
    (.stop Word.read?_nil (Word.stops_ending lowestPrecedence))
  rwa [List.append_nil] at asked

/-- A query for elements of a type is an expression in the braces of a question about them. -/
theorem Scope.enter_compiles (scope : Scope ρ) (parses : parse now element query = .ok predicate) :
    (scope.enter element).Compiles now query (predicate.shift (scope.depth + 1)) ∧
      (predicate.shift (scope.depth + 1)).type = .boolean := by
  obtain ⟨_, alone, ends, _⟩ := parse_eq_ok_iff.1 parses
  refine ⟨Scope.compiles_iff.2 ⟨_, alone.under (scope.current :: scope.outer), ends⟩, ?_⟩
  rw [Expr.type_shift]
  exact (typed_of_parse parses).2

/-- A source and a query compile to a question about the source. -/
theorem Reads.block (quantifier : Quantifier) {text : String} {rest : List Char}
    (expression : Reads now (.expression scope lowestPrecedence source) text.toList rest)
    (ends : AtEnd rest) (sequence : source.type = .sequence element)
    (parses : parse now element query = .ok predicate) :
    Reads now
      (.expression scope lowestPrecedence
        (.nested quantifier (scope.depth + 1) source (predicate.shift (scope.depth + 1))))
      (quantifier.block text query).toList [] := by
  obtain ⟨compiles, boolean⟩ := scope.enter_compiles parses
  exact expression.block_of_compiles quantifier ends sequence compiles boolean

end Derivations

/-! ## Questions and queries -/

section Questions

variable {scope : Scope ρ} {element : ValueType ρ} {source predicate : Expr ρ}

/-- A question whose block is a query of its own answers for the elements of its source what the
query says about them. -/
theorem Expr.Typed.run_block [BEq ρ] {quantifier : Quantifier} {frames : Frames ρ}
    (source_typed : source.Typed scope.types) (predicate_typed : predicate.Typed [element])
    (block_typed : (Expr.nested quantifier (scope.depth + 1) source
      (predicate.shift (scope.depth + 1))).Typed scope.types)
    (fits : frames.inputs.length = scope.depth + 1) :
    (Expr.nested quantifier (scope.depth + 1) source
        (predicate.shift (scope.depth + 1))).eval.run frames =
      (quantifier.answer predicate.holdsOn (source.eval.run frames).1.items, frames) := by
  rw [← scope.length_types] at fits
  rw [block_typed.runsIn frames fits, source_typed.runsIn frames fits, Expr.valueIn]
  have levels : scope.depth + 1 = frames.environment.length := by
    rw [Frames.environment, List.length_reverse, fits, scope.length_types]
  have tests : ∀ value : Value ρ, ((predicate.shift (scope.depth + 1)).valueIn
      (value :: frames.environment)).isTrue = predicate.holdsOn value := by
    intro value
    have alone : predicate.valueOn value = predicate.valueIn [value] :=
      congrArg Prod.fst (predicate_typed.runsIn (.start value) rfl)
    rw [Expr.holdsOn, alone, levels]
    exact congrArg Value.isTrue (predicate_typed.valueIn_shift frames.environment [value] rfl)
  simp only [tests]

end Questions

/-- A block is a query of its own.  Where a source compiles to a sequence and a query compiles
alone for its elements, the question with the query in its braces compiles, in the same scope and
with the same moment of `@now`.  Over any frames for the scope it is answered by what the query
says about each element of the source, a null source having none, and the frames are kept.  At the
outermost level the question is a query, unless it counts. -/
theorem block_answers_query {ρ : Type} [BEq ρ] {now : DateTime} {scope : Scope ρ}
    {element : ValueType ρ} {source predicate : Expr ρ} {text query : String}
    (compiles : scope.Compiles now text source) (sequence : source.type = .sequence element)
    (parses : parse now element query = .ok predicate) (quantifier : Quantifier) :
    ∃ block : Expr ρ,
      scope.Compiles now (quantifier.block text query) block ∧
      scope.CompilesInBlock now (quantifier.block text query) block ∧
      (scope.outer = [] → quantifier ≠ .count →
        parse now scope.current (quantifier.block text query) = .ok block) ∧
      ∀ frames : Frames ρ, frames.inputs.length = scope.depth + 1 →
        block.eval.run frames =
          (quantifier.answer predicate.holdsOn (source.eval.run frames).1.items, frames) := by
  obtain ⟨rest, derivation, ends⟩ := Scope.compiles_iff.1 compiles
  have asked := derivation.block quantifier ends sequence parses
  have compiled := Scope.compiles_iff.2 ⟨_, asked, Word.atEnd_nil⟩
  refine ⟨_, compiled, compiled.in_block, ?_, ?_⟩
  · intro outermost decides
    obtain ⟨current, outer⟩ := scope
    obtain rfl : outer = [] := outermost
    refine parse_eq_ok_iff.2 ⟨_, asked, Word.atEnd_nil, ?_⟩
    cases quantifier with
    | any => rfl
    | all => rfl
    | count => exact absurd rfl decides
  · intro frames fits
    exact (Parser.typed_of_reads derivation).run_block (typed_of_parse parses).1
      (Parser.typed_of_reads asked) fits

theorem block_answers_query_nested :
    ∃ (now : DateTime) (source predicate block : Expr Json),
      Scope.Compiles now ⟨.sequence (.sequence .integer), [.integer]⟩ "$" source ∧
      source.type = .sequence (.sequence .integer) ∧
      parse now (.sequence .integer) "$ any \x7b $ > 1 \x7d" = .ok predicate ∧
      Scope.Compiles now ⟨.sequence (.sequence .integer), [.integer]⟩
        "$ count \x7b $ any \x7b $ > 1 \x7d \x7d" block ∧
      (block.eval.run ⟨[.integer 7, .sequence [.sequence [.integer 1, .integer 2], .null,
        .sequence [.integer 3]]]⟩).1 = .integer 2 := by
  have source : Scope.Compiles ⟨⟨0, by decide⟩, .midnight⟩
      (⟨.sequence (.sequence .integer), [.integer]⟩ : Scope Json) "$"
      (.input 1 (.sequence (.sequence .integer))) := by
    have run : read? ['$'] = some (⟨.input, "$", none⟩, []) := rfl
    refine Scope.compiles_iff.2 ⟨[], ?_, Word.atEnd_nil⟩
    exact .expression (.input run rfl rfl) (.noSuffix Word.read?_nil nofun)
      (.stop Word.read?_nil (Word.stops_ending _))
  have query : parse ⟨⟨0, by decide⟩, .midnight⟩ (.sequence .integer : ValueType Json)
      "$ any \x7b $ > 1 \x7d" =
      .ok (.nested .any 1 (.input 0 (.sequence .integer))
        (.binary .greater .boolean (.input 1 .integer) (.literal (.integer 1)))) := by cbv
  obtain ⟨block, compiles, _, _, answers⟩ := block_answers_query source rfl query .count
  refine ⟨_, _, _, block, source, rfl, query, compiles, ?_⟩
  rw [answers _ rfl]
  cbv

end RecordQuery
