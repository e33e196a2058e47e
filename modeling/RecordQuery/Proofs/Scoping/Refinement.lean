import RecordQuery.Json.Basic
import RecordQuery.Proofs.Scoping.Reach

/-!
# Frames refine lexical scoping

The parser counts the blocks around every name: a run of `$` becomes the depth of an input, and a
name alone is read off the input at the depth of its scope.  The evaluator keeps the inputs in
frames and finds them by these depths.  Together they mean what the text says, where every
environment has one value for each block around an expression and one for the input of the query:

* a run of `n` marks is the current element of the block `n - 1` levels out
  (`Scope.run_valueIn`);
* a name alone is a member of the innermost current element (`Scope.name_valueIn`);
* in a block the environment has one element more (`Scope.block_valueIn`).

`eval_refines_environment` states this for whole queries.  No evaluation of a query looks for an
input in a frame that is not there, and the evaluation of every part leaves the frames as it
found them.
-/

set_option autoImplicit false

namespace RecordQuery

/-! ## Runs of marks and names in the text -/

theorem Word.read?_run {text rest : List Char} {count : Nat} (positive : 0 < count)
    (run : Text.trimStart text = List.replicate count '$' ++ rest)
    (ends : rest.head? ≠ some '$') :
    Word.read? text = some (⟨.input, String.ofList (List.replicate count '$'), none⟩, rest) := by
  obtain ⟨more, rfl⟩ := Nat.exists_eq_succ_of_ne_zero (Nat.ne_of_gt positive)
  have marks : (List.replicate more '$' ++ rest).takeWhile (· = '$') = List.replicate more '$' := by
    rw [List.takeWhile_append_of_pos (by simp)]
    cases rest with
    | nil => simp
    | cons c rest =>
        have other : c ≠ '$' := fun same => ends (by rw [same]; rfl)
        simp [other]
  rw [List.replicate_succ, List.cons_append] at run
  have notWord : Lexeme.startsWord '$' = false := by decide
  simp only [Word.read?, run, Lexeme.read, notWord, marks, Lexeme.plain, List.length_replicate]
  simp [← List.replicate_succ]

namespace Reads

variable {ρ : Type} {now : DateTime} {scope : Scope ρ} {whole : Expr ρ}
  {text after rest : List Char} {word : Word}

theorem inputOf_of_run (derivation : Reads now (.primary scope whole) text rest)
    (reads : Word.read? text = some (word, after)) (isRun : word.kind = .input) :
    rest = after ∧ scope.inputOf word.lexeme = .ok whole := by
  cases derivation with
  | input found _ resolves =>
      cases reads.symm.trans found
      exact ⟨rfl, resolves⟩
  | call found other | name found other | now found other | literal found other
  | group found other | unary found other =>
      cases reads.symm.trans found
      rw [isRun] at other
      cases other

theorem ofMember_of_name (derivation : Reads now (.primary scope whole) text rest)
    (reads : Word.read? text = some (word, after)) (isName : word.kind = .identifier)
    {next : Word} {behind : List Char} (follows : Word.read? after = some (next, behind))
    (alone : next.kind ≠ .mark .parenthesisOpen) :
    scope.input.ofMember word.lexeme = .ok whole := by
  cases derivation with
  | name found _ _ _ resolves =>
      cases reads.symm.trans found
      exact resolves
  | call found _ opens isOpen =>
      cases reads.symm.trans found
      cases follows.symm.trans opens
      exact absurd isOpen alone
  | input found other | now found other | literal found other | group found other
  | unary found other =>
      cases reads.symm.trans found
      rw [isName] at other
      cases other

end Reads

/-! ## What they mean -/

namespace Scope

variable {ρ : Type} [BEq ρ]

/-- A run of `n` marks is the current element of the block `n - 1` levels out. -/
def RunsAreLevels (now : DateTime) (scope : Scope ρ) : Prop :=
  ∀ {cursor : Cursor} {read : Cursor.Later cursor (Expr ρ)} {count : Nat} {rest : List Char},
    Parser.primary now scope cursor = .ok read → 0 < count →
    Text.trimStart cursor.rest = List.replicate count '$' ++ rest → rest.head? ≠ some '$' →
    ∀ environment : List (Value ρ), environment.length = scope.depth + 1 →
      environment[count - 1]? = some (read.value.valueIn environment)

/-- A name alone is a member of the innermost current element. -/
def NamesAreInnermost (now : DateTime) (scope : Scope ρ) : Prop :=
  ∀ {cursor : Cursor} {read : Cursor.Later cursor (Expr ρ)} {name next : Word}
    {rest behind : List Char},
    Parser.primary now scope cursor = .ok read →
    Word.read? cursor.rest = some (name, rest) → name.kind = .identifier →
    Word.read? rest = some (next, behind) → next.kind ≠ .mark .parenthesisOpen →
    ∃ found, scope.current.resolveMember name.lexeme = .ok found ∧
      ∀ (element : Value ρ) (environment : List (Value ρ)), environment.length = scope.depth →
        read.value.valueIn (element :: environment) = found.readFrom element

/-- The braces of a question are read one level deeper, and mean their predicate for each element
of the source in turn. -/
def BlocksEnter (now : DateTime) (scope : Scope ρ) : Prop :=
  ∀ {cursor : Cursor} {source : Expr ρ} {keyword : Token} {read : Cursor.Later cursor (Expr ρ)},
    Parser.question now scope source keyword cursor = .ok read →
    ∃ (element : ValueType ρ) (inside : Cursor) (predicate : Cursor.Later inside (Expr ρ)),
      source.type = .sequence element ∧
      Parser.expression now (scope.enter element) lowestPrecedence inside = .ok predicate ∧
      ∀ environment : List (Value ρ), read.value.valueIn environment =
        ((Quantifier.ofWord? keyword.lexeme).getD .any).answer
          (fun value => (predicate.value.valueIn (value :: environment)).isTrue)
          (source.valueIn environment).items

theorem run_valueIn (now : DateTime) (scope : Scope ρ) : scope.RunsAreLevels now := by
  intro cursor read count rest returns positive run ends environment length
  have derivation := Parser.primary_sound returns
  obtain ⟨_, resolves⟩ := derivation.inputOf_of_run (Word.read?_run positive run ends) rfl
  obtain ⟨type, found, made⟩ := Scope.inputOf_eq_ok_iff.1 resolves
  rw [String.toList_ofList, List.length_replicate] at found made
  obtain ⟨bound, _⟩ := List.getElem?_eq_some_iff.1 found
  have inside : count - 1 ≤ scope.depth := by
    simp only [List.length_cons] at bound
    exact Nat.le_of_lt_succ bound
  have level : environment.length - 1 - (scope.depth - (count - 1)) = count - 1 := by omega
  have present : count - 1 < environment.length := by omega
  rw [← made, Expr.valueIn, level, List.getElem?_eq_getElem present]
  rfl

theorem name_valueIn (now : DateTime) (scope : Scope ρ) : scope.NamesAreInnermost now := by
  intro cursor read name next rest behind returns reads isName follows alone
  have derivation := Parser.primary_sound returns
  have resolves := derivation.ofMember_of_name reads isName follows alone
  obtain ⟨found, resolved, made⟩ := Expr.ofMember_eq_ok_iff.1 resolves
  refine ⟨found, resolved, fun element environment length => ?_⟩
  rw [← made, Expr.valueIn, Scope.input, Expr.valueIn, List.length_cons, length]
  simp

theorem block_valueIn (now : DateTime) (scope : Scope ρ) : scope.BlocksEnter now := by
  intro cursor source keyword read returns
  rw [Parser.question] at returns
  split at returns
  · next element sequence =>
      obtain ⟨opening, _, returns⟩ := bind_eq_ok_iff.1 returns
      obtain ⟨predicate, expressed, returns⟩ := bind_eq_ok_iff.1 returns
      simp only at returns
      split at returns
      · cases returns
      · obtain ⟨closing, _, returns⟩ := bind_eq_ok_iff.1 returns
        cases returns
        exact ⟨element, opening.next, predicate, ValueType.element?_eq_some_iff.1 sequence,
          expressed, fun environment => rfl⟩
  · cases returns

end Scope

/-! ## Queries -/

/-- The frames of an evaluation refine lexical scoping.  A query has the value of its tree in the
environment of its input alone.  Wherever the evaluation comes to, the value is that in the
environment of the current elements, the frames are left as they were, and the input at every
depth is there.  Runs of `$`, names and blocks mean in an environment what they say. -/
theorem eval_refines_environment {ρ : Type} [BEq ρ] {now : DateTime} {type : ValueType ρ}
    {source : String} {expr : Expr ρ} (parses : parse now type source = .ok expr)
    (input : Value ρ) :
    expr.valueOn input = expr.valueIn [input] ∧
    (∀ (node : Expr ρ) (frames : Frames ρ), expr.Reaches (.start input) node frames →
      node.eval.run frames = (node.valueIn frames.environment, frames) ∧
      ∀ (depth : Nat) (found : ValueType ρ), node = .input depth found →
        ∃ value, frames.inputs[depth]? = some value) ∧
    (∃ read, Parser.expression now ⟨type, []⟩ lowestPrecedence (Cursor.start source) = .ok read ∧
      read.value = expr) ∧
    ∀ scope : Scope ρ,
      scope.RunsAreLevels now ∧ scope.NamesAreInnermost now ∧ scope.BlocksEnter now := by
  obtain ⟨typed, _⟩ := typed_of_parse parses
  refine ⟨?_, ?_, ?_, ?_⟩
  · exact congrArg Prod.fst (typed.runsIn (.start input) rfl)
  · intro node frames reaches
    obtain ⟨inner, node_typed, fits⟩ := reaches.fits typed rfl
    refine ⟨node_typed.runsIn frames fits, ?_⟩
    rintro depth found rfl
    cases node_typed with
    | input bound =>
        obtain ⟨inside, _⟩ := List.getElem?_eq_some_iff.1 bound
        exact ⟨_, List.getElem?_eq_getElem (fits ▸ inside)⟩
  · obtain ⟨rest, derivation, _⟩ := parse_eq_ok_iff.1 parses
    obtain ⟨read, expressed, same, _⟩ := Parser.parses_of_reads derivation (Cursor.start source) rfl
    exact ⟨read, expressed, same⟩
  · exact fun scope => ⟨scope.run_valueIn now, scope.name_valueIn now, scope.block_valueIn now⟩

theorem eval_refines_environment_siblings :
    ∃ (now : DateTime) (expr : Expr Json) (input : Value Json),
      parse now (.sequence (.sequence .integer))
        "$ any \x7b $ all \x7b $$ any \x7b $ != $$ \x7d \x7d \x7d" = .ok expr ∧
      input = .sequence [.sequence [.integer 3], .sequence [.integer 1, .integer 2]] ∧
      expr.valueOn input = expr.valueIn [input] ∧ expr.valueIn [input] = .boolean true := by
  have parses : parse ⟨⟨0, by decide⟩, .midnight⟩ (.sequence (.sequence .integer) : ValueType Json)
      "$ any \x7b $ all \x7b $$ any \x7b $ != $$ \x7d \x7d \x7d" =
      .ok (.nested .any 1 (.input 0 (.sequence (.sequence .integer)))
        (.nested .all 2 (.input 1 (.sequence .integer))
          (.nested .any 3 (.input 1 (.sequence .integer))
            (.binary .notEqual .boolean (.input 3 .integer) (.input 2 .integer))))) := by cbv
  exact ⟨_, _, _, parses, rfl, (eval_refines_environment parses _).1, by cbv⟩

end RecordQuery
