import RecordQuery.Proofs.Grammar.Agreement
import RecordQuery.Proofs.Grammar.Part
import RecordQuery.Proofs.Grammar.Yield

/-!
# Parentheses only group

Parentheses around the tokens of any part of a query leave its expression as it is
(`parse_parenthesized`).

In the tree of the query the part is put into a group of its own (`ParseTree.Regroups`).  A group
stands wherever its part stood: inside the parentheses the floor is the lowest one and nothing can
follow, which is all that a tree needs to stand (`ParseTree.Stands.relax`).  And a group has the
expression of its part, so nothing around it is built from another expression than before.
-/

set_option autoImplicit false

namespace RecordQuery

open Word (read? Run Stops)

/-! ## Where trees may stand as well -/

theorem Word.ends_groupClose (floor : Int) : Word.groupClose.Ends floor :=
  Word.ends_of_mark rfl rfl (by decide) floor

/-- A tree stands with a lower floor too, and before a parenthesis that closes. -/
theorem ParseTree.Stands.relax {tree : ParseTree} {floor lower : Int} {next next' : Word}
    (stands : tree.Stands floor next) (below : lower ≤ floor)
    (follows : next' = next ∨ next' = Word.groupClose) : tree.Stands lower next' := by
  have ends : ∀ {floor : Int}, next.Ends floor → next'.Ends floor := fun {floor} ends =>
    follows.elim (fun same => same ▸ ends) (fun same => same ▸ Word.ends_groupClose floor)
  cases tree with
  | word token =>
      intro isName
      rcases follows with rfl | rfl
      · exact stands isName
      · decide
  | group | emptyCall | call => exact stands
  | unary mark operand => exact ⟨stands.1.relax (Int.le_refl _) follows, ends stands.2⟩
  | member base dot name =>
      obtain ⟨isDot, isName, stands⟩ := stands
      exact ⟨isDot, isName, stands.relax below (.inl rfl)⟩
  | asked source keyword opening predicate closing =>
      obtain ⟨isKeyword, isOpen, isClose, stands, inside, other⟩ := stands
      refine ⟨isKeyword, isOpen, isClose, stands.relax below (.inl rfl), inside, ?_⟩
      rcases follows with rfl | rfl
      · exact other
      · decide
  | binary left mark right =>
      obtain ⟨entry, isOperator, binds, standsLeft, standsRight, stops⟩ := stands
      exact ⟨entry, isOperator, Int.lt_of_le_of_lt below binds, standsLeft.relax below (.inl rfl),
        standsRight.relax (Int.le_refl _) follows, ends stops⟩

/-! ## Parts in groups of their own -/

/-- A token that begins a group.  Where it stands makes no difference to a tree. -/
def Token.groupOpen : Token := ⟨0, .mark .parenthesisOpen, "(", none⟩

/-- A token that ends a group. -/
def Token.groupClose : Token := ⟨0, .mark .parenthesisClose, ")", none⟩

/-- The words of some tokens are those of others with parentheses around a part. -/
def Token.Wraps (part tokens wrapped : List Token) : Prop :=
  ∃ before after, tokens = before ++ (part ++ after) ∧
    wrapped.map Token.word = before.map Token.word ++ Word.groupOpen :: (part.map Token.word ++
      Word.groupClose :: after.map Token.word)

theorem Token.Wraps.append {part tokens wrapped : List Token} (wraps : Wraps part tokens wrapped)
    (front behind : List Token) :
    Wraps part (front ++ (tokens ++ behind)) (front ++ (wrapped ++ behind)) := by
  obtain ⟨before, after, rfl, words⟩ := wraps
  refine ⟨front ++ before, after ++ behind, by simp only [List.append_assoc], ?_⟩
  simp only [List.map_append, words, List.append_assoc, List.cons_append]

/-- In the second tree the part is in a group of its own; the expression is the same, and the tree
stands wherever the first one does. -/
structure ParseTree.Regroups (part tree regrouped : ParseTree) : Prop where
  wraps : Token.Wraps part.tokens tree.tokens regrouped.tokens
  builds : ∀ {ρ : Type} (now : DateTime) (scope : Scope ρ),
    regrouped.build now scope = tree.build now scope
  stands : ∀ {floor : Int} {next : Word}, lowestPrecedence ≤ floor → tree.Stands floor next →
    regrouped.Stands floor next

/-- In the second arguments the part is in a group of its own, and nothing else changes. -/
structure ArgumentTree.Regroups (part : ParseTree) (arguments regrouped : ArgumentTree) :
    Prop where
  wraps : Token.Wraps part.tokens arguments.tokens regrouped.tokens
  builds : ∀ {ρ : Type} (now : DateTime) (scope : Scope ρ),
    regrouped.build now scope = arguments.build now scope
  stands : ∀ {next : Word}, arguments.Stands next → regrouped.Stands next

namespace ParseTree.Regroups

variable {part tree tree' : ParseTree}

/-- A tree as a whole may be put into a group. -/
theorem whole (tree : ParseTree) : tree.Regroups tree (.group .groupOpen tree .groupClose) where
  wraps := ⟨[], [], by simp only [List.nil_append, List.append_nil],
    by simp only [ParseTree.tokens, List.map_cons, List.map_append, List.map_nil]; rfl⟩
  builds _ _ := rfl
  stands above stands := ⟨rfl, rfl, stands.relax above (.inr rfl)⟩

theorem group (opening closing : Token) (inside : part.Regroups tree tree') :
    part.Regroups (.group opening tree closing) (.group opening tree' closing) where
  wraps := inside.wraps.append [opening] [closing]
  builds := inside.builds
  stands := fun _ ⟨isOpen, isClose, stands⟩ =>
    ⟨isOpen, isClose, inside.stands (Int.le_refl _) stands⟩

theorem unary (mark : Token) (inside : part.Regroups tree tree') :
    part.Regroups (.unary mark tree) (.unary mark tree') where
  wraps := by simpa [ParseTree.tokens] using inside.wraps.append [mark] []
  builds now scope := by simp only [ParseTree.build, inside.builds]
  stands := fun _ ⟨stands, ends⟩ => ⟨inside.stands (Int.le_refl _) stands, ends⟩

theorem member (dot name : Token) (inside : part.Regroups tree tree') :
    part.Regroups (.member tree dot name) (.member tree' dot name) where
  wraps := inside.wraps.append [] [dot, name]
  builds now scope := by simp only [ParseTree.build, inside.builds]
  stands := fun above ⟨isDot, isName, stands⟩ => ⟨isDot, isName, inside.stands above stands⟩

theorem source (keyword opening : Token) (predicate : ParseTree) (closing : Token)
    (inside : part.Regroups tree tree') :
    part.Regroups (.asked tree keyword opening predicate closing)
      (.asked tree' keyword opening predicate closing) where
  wraps := inside.wraps.append [] (keyword :: opening :: (predicate.tokens ++ [closing]))
  builds now scope := by simp only [ParseTree.build, inside.builds]
  stands := fun above ⟨isKeyword, isOpen, isClose, stands, others⟩ =>
    ⟨isKeyword, isOpen, isClose, inside.stands above stands, others⟩

theorem predicate (source : ParseTree) (keyword opening closing : Token)
    (inside : part.Regroups tree tree') :
    part.Regroups (.asked source keyword opening tree closing)
      (.asked source keyword opening tree' closing) where
  wraps := by
    simpa [ParseTree.tokens] using
      inside.wraps.append (source.tokens ++ [keyword, opening]) [closing]
  builds now scope := by simp only [ParseTree.build, inside.builds]
  stands := fun _ ⟨isKeyword, isOpen, isClose, stands, standsInside, other⟩ =>
    ⟨isKeyword, isOpen, isClose, stands, inside.stands (Int.le_refl _) standsInside, other⟩

theorem left (mark : Token) (right : ParseTree) (inside : part.Regroups tree tree') :
    part.Regroups (.binary tree mark right) (.binary tree' mark right) where
  wraps := inside.wraps.append [] (mark :: right.tokens)
  builds now scope := by simp only [ParseTree.build, inside.builds]
  stands := fun above ⟨entry, isOperator, binds, stands, others⟩ =>
    ⟨entry, isOperator, binds, inside.stands above stands, others⟩

theorem right (left : ParseTree) (mark : Token) (inside : part.Regroups tree tree') :
    part.Regroups (.binary left mark tree) (.binary left mark tree') where
  wraps := by
    simpa [ParseTree.tokens] using inside.wraps.append (left.tokens ++ [mark]) []
  builds now scope := by simp only [ParseTree.build, inside.builds]
  stands := fun above ⟨entry, isOperator, binds, standsLeft, stands, ends⟩ =>
    ⟨entry, isOperator, binds, standsLeft,
      inside.stands (Int.le_of_lt (Int.lt_of_le_of_lt above binds)) stands, ends⟩

end ParseTree.Regroups

mutual
/-- Every part of a tree may be put into a group of its own. -/
theorem ParseTree.exists_regroups (tree : ParseTree) {part : ParseTree}
    (mem : part ∈ tree.parts) : ∃ regrouped, part.Regroups tree regrouped := by
  cases tree with
  | word token =>
      obtain rfl := List.mem_singleton.1 mem
      exact ⟨_, .whole _⟩
  | emptyCall name opening closing =>
      obtain rfl := List.mem_singleton.1 mem
      exact ⟨_, .whole _⟩
  | group opening inner closing =>
      obtain rfl | mem := List.mem_cons.1 mem
      · exact ⟨_, .whole _⟩
      · obtain ⟨_, inside⟩ := inner.exists_regroups mem
        exact ⟨_, inside.group opening closing⟩
  | unary mark operand =>
      obtain rfl | mem := List.mem_cons.1 mem
      · exact ⟨_, .whole _⟩
      · obtain ⟨_, inside⟩ := operand.exists_regroups mem
        exact ⟨_, inside.unary mark⟩
  | call name opening arguments closing =>
      obtain rfl | mem := List.mem_cons.1 mem
      · exact ⟨_, .whole _⟩
      · obtain ⟨regrouped, inside⟩ := arguments.exists_regroups mem
        refine ⟨.call name opening regrouped closing, ?_, ?_, ?_⟩
        · exact inside.wraps.append [name, opening] [closing]
        · intro ρ now scope
          simp only [ParseTree.build, inside.builds]
        · rintro floor next - ⟨isName, isOpen, isClose, stands⟩
          exact ⟨isName, isOpen, isClose, inside.stands stands⟩
  | member base dot name =>
      obtain rfl | mem := List.mem_cons.1 mem
      · exact ⟨_, .whole _⟩
      · obtain ⟨_, inside⟩ := base.exists_regroups mem
        exact ⟨_, inside.member dot name⟩
  | asked source keyword opening predicate closing =>
      obtain rfl | mem := List.mem_cons.1 mem
      · exact ⟨_, .whole _⟩
      · obtain mem | mem := List.mem_append.1 mem
        · obtain ⟨_, inside⟩ := source.exists_regroups mem
          exact ⟨_, inside.source keyword opening predicate closing⟩
        · obtain ⟨_, inside⟩ := predicate.exists_regroups mem
          exact ⟨_, inside.predicate source keyword opening closing⟩
  | binary left mark right =>
      obtain rfl | mem := List.mem_cons.1 mem
      · exact ⟨_, .whole _⟩
      · obtain mem | mem := List.mem_append.1 mem
        · obtain ⟨_, inside⟩ := left.exists_regroups mem
          exact ⟨_, inside.left mark right⟩
        · obtain ⟨_, inside⟩ := right.exists_regroups mem
          exact ⟨_, inside.right left mark⟩

/-- Every part of arguments may be put into a group of its own. -/
theorem ArgumentTree.exists_regroups (arguments : ArgumentTree) {part : ParseTree}
    (mem : part ∈ arguments.parts) :
    ∃ regrouped, ArgumentTree.Regroups part arguments regrouped := by
  cases arguments with
  | last value =>
      obtain ⟨regrouped, inside⟩ := value.exists_regroups mem
      refine ⟨.last regrouped, inside.wraps, fun now scope => ?_, ?_⟩
      · simp only [ArgumentTree.build, inside.builds]
      · exact inside.stands (Int.le_refl _)
  | more value comma others =>
      obtain mem | mem := List.mem_append.1 mem
      · obtain ⟨regrouped, inside⟩ := value.exists_regroups mem
        refine ⟨.more regrouped comma others, ?_, fun now scope => ?_, ?_⟩
        · exact inside.wraps.append [] (comma :: others.tokens)
        · simp only [ArgumentTree.build, inside.builds]
        · rintro next ⟨isComma, stands, standsOthers⟩
          exact ⟨isComma, inside.stands (Int.le_refl _) stands, standsOthers⟩
      · obtain ⟨regrouped, inside⟩ := others.exists_regroups mem
        refine ⟨.more value comma regrouped, ?_, fun now scope => ?_, ?_⟩
        · simpa [ArgumentTree.tokens] using inside.wraps.append (value.tokens ++ [comma]) []
        · simp only [ArgumentTree.build, inside.builds]
        · rintro next ⟨isComma, stands, standsOthers⟩
          exact ⟨isComma, stands, inside.stands standsOthers⟩
end

/-! ## The nodes of an expression -/

section Nodes

variable {ρ : Type} {now : DateTime} {scope : Scope ρ} {whole node : Expr ρ}

/-- A node is the expression of one of the trees, or it is the input that a name alone is read off,
for which nothing is written. -/
def MadeOf (now : DateTime) (parts : List ParseTree) (node : Expr ρ) : Prop :=
  (∃ part ∈ parts, ∃ scope, part.build now scope = some node) ∨ ∃ scope : Scope ρ,
    node = scope.input

theorem MadeOf.mono {parts parts' : List ParseTree} (made : MadeOf now parts node)
    (sub : parts ⊆ parts') : MadeOf now parts' node :=
  made.imp_left fun ⟨part, mem, builds⟩ => ⟨part, sub mem, builds⟩

theorem ParseTree.mem_parts_self (tree : ParseTree) : tree ∈ tree.parts := by
  cases tree <;> simp [ParseTree.parts]

theorem Token.madeOf_word {token : Token} (builds : token.build now scope = some whole)
    (inside : node.PartOf whole) : MadeOf now [.word token] node := by
  have here : whole = node → MadeOf now [.word token] node := fun same =>
    .inl ⟨_, List.mem_singleton_self _, scope, same ▸ builds⟩
  have found := builds
  unfold Token.build at found
  split at found
  · obtain ⟨_, _, rfl⟩ := Expr.ofMember_eq_ok_iff.1 (Except.toOption_eq_some_iff.1 found)
    cases inside with
    | whole => exact here rfl
    | base inside =>
        cases inside
        exact .inr ⟨scope, rfl⟩
  · cases found
    cases inside
    exact here rfl
  · have found := Except.toOption_eq_some_iff.1 found
    unfold Scope.inputOf at found
    simp only at found
    split at found
    · cases found
      cases inside
      exact here rfl
    · cases found
  · obtain ⟨value, _, rfl⟩ := Option.map_eq_some_iff.1 found
    cases inside
    exact here rfl
  · cases found

mutual
/-- Every node of the expression of a tree is the expression of one of its parts, apart from the
inputs that names alone are read off. -/
theorem ParseTree.madeOf_parts (tree : ParseTree) {scope : Scope ρ} {whole : Expr ρ}
    (builds : tree.build now scope = some whole) (inside : node.PartOf whole) :
    MadeOf now tree.parts node := by
  have here : whole = node → MadeOf now tree.parts node := fun same =>
    .inl ⟨tree, tree.mem_parts_self, scope, same ▸ builds⟩
  have found := builds
  cases tree with
  | word token => exact Token.madeOf_word builds inside
  | group opening inner closing =>
      exact (inner.madeOf_parts builds inside).mono (List.subset_cons_self _ _)
  | unary mark operand =>
      simp only [ParseTree.build, Option.bind_eq_bind, Option.bind_eq_some_iff,
        Except.toOption_eq_some_iff] at found
      obtain ⟨_, _, _, _, value, found, joins⟩ := found
      obtain ⟨_, rfl⟩ := Expr.ofUnary_eq_ok_iff.1 joins
      cases inside with
      | whole => exact here rfl
      | operand inside => exact (operand.madeOf_parts found inside).mono (List.subset_cons_self _ _)
  | emptyCall name opening closing =>
      rcases Expr.ofCall_eq_ok (Except.toOption_eq_some_iff.1 found) with
        ⟨_, rfl⟩ | ⟨_, _, _, _, rfl⟩
      · cases inside
        exact here rfl
      · cases inside with
        | whole => exact here rfl
        | argument mem => cases mem
  | call name opening arguments closing =>
      simp only [ParseTree.build, Option.bind_eq_bind, Option.bind_eq_some_iff,
        Except.toOption_eq_some_iff] at found
      obtain ⟨values, found, joins⟩ := found
      rcases Expr.ofCall_eq_ok joins with ⟨_, rfl⟩ | ⟨_, _, _, _, rfl⟩
      · cases inside
        exact here rfl
      · cases inside with
        | whole => exact here rfl
        | argument mem inside =>
            exact (arguments.madeOf_parts found mem inside).mono (List.subset_cons_self _ _)
  | member base dot name =>
      simp only [ParseTree.build, Option.bind_eq_bind, Option.bind_eq_some_iff,
        Except.toOption_eq_some_iff] at found
      obtain ⟨value, found, resolves⟩ := found
      obtain ⟨_, _, rfl⟩ := Expr.ofMember_eq_ok_iff.1 resolves
      cases inside with
      | whole => exact here rfl
      | base inside => exact (base.madeOf_parts found inside).mono (List.subset_cons_self _ _)
  | asked source keyword opening predicate closing =>
      simp only [ParseTree.build, Option.bind_eq_bind, Option.bind_eq_some_iff,
        Option.ite_none_right_eq_some] at found
      obtain ⟨value, found, element, _, inner, foundInside, _, same⟩ := found
      cases same
      cases inside with
      | whole => exact here rfl
      | source inside =>
          exact (source.madeOf_parts found inside).mono
            (List.subset_cons_of_subset _ (List.subset_append_left _ _))
      | predicate inside =>
          exact (predicate.madeOf_parts foundInside inside).mono
            (List.subset_cons_of_subset _ (List.subset_append_right _ _))
  | binary left mark right =>
      simp only [ParseTree.build, Option.bind_eq_bind, Option.bind_eq_some_iff,
        Except.toOption_eq_some_iff] at found
      obtain ⟨_, _, _, _, _, foundLeft, _, foundRight, joins⟩ := found
      have inLeft : ∀ {value : Expr ρ}, left.build now scope = some value → node.PartOf value →
          MadeOf now (ParseTree.binary left mark right).parts node := fun found inside =>
        (left.madeOf_parts found inside).mono
          (List.subset_cons_of_subset _ (List.subset_append_left _ _))
      have inRight : ∀ {value : Expr ρ}, right.build now scope = some value → node.PartOf value →
          MadeOf now (ParseTree.binary left mark right).parts node := fun found inside =>
        (right.madeOf_parts found inside).mono
          (List.subset_cons_of_subset _ (List.subset_append_right _ _))
      rcases Expr.ofBinary_eq_ok_iff.1 joins with ⟨_, _, _, _, rfl⟩ | ⟨_, _, _, _, _, _, rfl⟩
      · cases inside with
        | whole => exact here rfl
        | left inside => exact inLeft foundLeft inside
        | right inside => exact inRight foundRight inside
      · cases inside with
        | whole => exact here rfl
        | text inside => exact inLeft foundLeft inside
        | written inside => exact inRight foundRight inside

theorem ArgumentTree.madeOf_parts (arguments : ArgumentTree) {scope : Scope ρ}
    {values : List (Expr ρ)} {value : Expr ρ} (builds : arguments.build now scope = some values)
    (mem : value ∈ values) (inside : node.PartOf value) : MadeOf now arguments.parts node := by
  cases arguments with
  | last argument =>
      simp only [ArgumentTree.build, Option.bind_eq_bind, Option.bind_eq_some_iff,
        Option.pure_def, Option.some.injEq] at builds
      obtain ⟨_, found, rfl⟩ := builds
      obtain rfl := List.mem_singleton.1 mem
      exact argument.madeOf_parts found inside
  | more argument comma others =>
      simp only [ArgumentTree.build, Option.bind_eq_bind, Option.bind_eq_some_iff,
        Option.pure_def, Option.some.injEq] at builds
      obtain ⟨_, found, _, foundOthers, rfl⟩ := builds
      obtain rfl | mem := List.mem_cons.1 mem
      · exact (argument.madeOf_parts found inside).mono (List.subset_append_left _ _)
      · exact (others.madeOf_parts foundOthers mem inside).mono (List.subset_append_right _ _)
end

end Nodes

/-! ## Queries -/

section Queries

variable {ρ : Type} {now : DateTime} {type : ValueType ρ} {source : String} {whole : Expr ρ}

theorem ParseTree.tokens_ne_nil (tree : ParseTree) : tree.tokens ≠ [] := by
  cases tree <;> simp [ParseTree.tokens]

/-- The byte at which a tree starts. -/
def ParseTree.start (tree : ParseTree) : Nat := (tree.tokens.head tree.tokens_ne_nil).start

/-- The byte after the last one of a tree. -/
def ParseTree.stop (tree : ParseTree) : Nat := (tree.tokens.getLast tree.tokens_ne_nil).stop

/-- A tree of all tokens of a query, grouped the way they stand, with its expression. -/
structure ParseTree.IsTreeOf (now : DateTime) (type : ValueType ρ) (source : String)
    (whole : Expr ρ) (tree : ParseTree) : Prop where
  cuts : ∃ ending, tokenize source = .ok (tree.tokens ++ [ending])
  stands : tree.Stands lowestPrecedence Word.ending
  builds : tree.build now ⟨type, []⟩ = some whole

/-- A query that is accepted has a tree. -/
theorem exists_isTreeOf (accepts : parse now type source = .ok whole) :
    ∃ tree : ParseTree, tree.IsTreeOf now type source whole := by
  obtain ⟨rest, derivation, ⟨word, after, reads, isEnd⟩, boolean⟩ := parse_eq_ok_iff.1 accepts
  obtain ⟨last, rfl, tree, pops, builds, stands⟩ := derivation.yields (Cursor.start source) rfl
  obtain ⟨popped, ends, rfl, _⟩ := Cursor.pop_of_read? reads
  refine ⟨tree, ⟨popped.token, mapError_eq_ok_iff.2 (pops.tokens_of_end ends isEnd)⟩, ?_, builds⟩
  rw [← Cursor.word_of_pop_end ends isEnd]
  exact stands _ _ reads (by rw [isEnd]; nofun)

/-- Parentheses only group.  The tokens of a query that is accepted are those of a tree.  Every node
of the expression is the expression of a part of such a tree, which is a run of tokens, and the
query with parentheses around any part is accepted with the same expression. -/
theorem parse_parenthesized (accepts : parse now type source = .ok whole) :
    (∃ tree : ParseTree, tree.IsTreeOf now type source whole) ∧
    ∀ tree : ParseTree, tree.IsTreeOf now type source whole →
      (∀ node : Expr ρ, node.PartOf whole → MadeOf now tree.parts node) ∧
      ∀ part ∈ tree.parts, part.tokens <:+: tree.tokens ∧
        parse now type (Text.parenthesize source part.start part.stop) = .ok whole := by
  refine ⟨exists_isTreeOf accepts, fun tree isTree => ⟨fun node => ?_, fun part mem => ?_⟩⟩
  · exact tree.madeOf_parts isTree.builds
  obtain ⟨rest, _, _, boolean⟩ := parse_eq_ok_iff.1 accepts
  obtain ⟨ending, cuts⟩ := isTree.cuts
  obtain ⟨tokens, last, popped, run, ends, isEnd, same⟩ :=
    Cursor.tokens_eq_ok (mapError_eq_ok_iff.1 cuts)
  obtain ⟨rfl, _⟩ := List.append_inj' same rfl
  obtain ⟨regrouped, ⟨before, after, split, words⟩, builds, stands⟩ := tree.exists_regroups mem
  rw [split] at run
  have run := run.words_parenthesize part.tokens_ne_nil
  rw [← words] at run
  have word := Cursor.word_of_pop_end ends isEnd
  have follows := word ▸ Cursor.read?_of_pop ends
  have stops : Word.ending.Ends lowestPrecedence := ⟨Word.stops_ending _, nofun⟩
  refine ⟨⟨before, after, by rw [split, List.append_assoc]⟩, parse_eq_ok_iff.2
    ⟨last.rest, ?_, ⟨_, _, follows, rfl⟩, boolean⟩⟩
  exact regrouped.reads_expression run ((builds now _).trans isTree.builds) follows
    (stands (Int.le_refl _) isTree.stands) (.noSuffix follows stops.2) (.stop follows stops.1)

end Queries

/-- In the braces of a question, the front of a chain that groups to the left. -/
theorem parse_parenthesized_block :
    ∃ whole : Expr Nat,
      parse ⟨⟨0, by decide⟩, .midnight⟩ (.sequence .integer) "$ any \x7b$-4 - 3<9\x7d" =
        .ok whole ∧
      parse ⟨⟨0, by decide⟩, .midnight⟩ (.sequence .integer) "$ any \x7b($-4) - 3<9\x7d" =
        .ok whole := by
  let now : DateTime := ⟨⟨0, by decide⟩, .midnight⟩
  let token (start : Nat) (kind : TokenKind) (lexeme : String) : Token :=
    ⟨start, kind, lexeme, none⟩
  let integer (start : Nat) (lexeme : String) (value : Int32) : Token :=
    ⟨start, .literal, lexeme, some (.integer value)⟩
  let part : ParseTree :=
    .binary (.word (token 7 .input "$")) (token 8 (.mark .minus) "-") (.word (integer 9 "4" 4))
  let tree : ParseTree := .asked (.word (token 0 .input "$")) (token 2 .quantifier "any")
    (token 6 (.mark .blockOpen) "\x7b")
    (.binary (.binary part (token 11 (.mark .minus) "-") (.word (integer 13 "3" 3)))
      (token 14 (.mark .less) "<") (.word (integer 15 "9" 9)))
    (token 16 (.mark .blockClose) "\x7d")
  let whole : Expr Nat := .nested .any 1 (.input 0 (.sequence .integer))
    (.binary .less .boolean (.binary .subtract .integer (.binary .subtract .integer
      (.input 1 .integer) (.literal (.integer 4))) (.literal (.integer 3)))
      (.literal (.integer 9)))
  have accepts : parse now (.sequence .integer) "$ any \x7b$-4 - 3<9\x7d" = .ok whole := by cbv
  have isTree : tree.IsTreeOf now (.sequence .integer) "$ any \x7b$-4 - 3<9\x7d" whole := by
    refine ⟨⟨token 17 .endOfInput "", by cbv⟩, ?_, by cbv⟩
    have ends : ∀ {mark : Mark} {entry : BinaryEntry} {floor : Int} (start : Nat)
        (lexeme : String), mark.binary? = some entry → entry.precedence ≤ floor →
        (token start (.mark mark) lexeme).word.Ends floor := by
      intro mark entry floor start lexeme joins weaker
      refine ⟨⟨by rintro ⟨⟩, ?_⟩, ?_⟩
      · rintro _ _ ⟨⟩ joins'
        cases joins.symm.trans joins'
        exact weaker
      · rintro ⟨⟩
        cases joins
    have standsPart : part.Stands 70 (token 11 (.mark .minus) "-").word :=
      ⟨_, rfl, by decide, by rintro ⟨⟩, by rintro ⟨⟩, ends 11 "-" rfl (by decide)⟩
    have closes : (token 16 (.mark .blockClose) "\x7d").word.Ends 70 :=
      Token.ends_of_mark rfl rfl (by decide) 70
    refine ⟨rfl, rfl, rfl, by rintro ⟨⟩, ?_, by rintro ⟨⟩⟩
    exact ⟨_, rfl, by decide, ⟨_, rfl, by decide, standsPart.relax (by decide) (.inl rfl),
      by rintro ⟨⟩, ends 14 "<" rfl (by decide)⟩, by rintro ⟨⟩, closes⟩
  have again := (((parse_parenthesized accepts).2 tree isTree).2 part
    (by simp [tree, ParseTree.parts, part])).2
  exact ⟨whole, accepts, again⟩

end RecordQuery
