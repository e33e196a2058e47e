import RecordQuery.Json.Basic
import RecordQuery.Proofs.Grammar.Chain

/-!
# Precedence climbing

The parser reads a chain of binary operators in one pass, with a floor that rises inside the right
operand of each operator.  The tree that comes out is the one that splits the chain at its
rightmost loosest operator, again and again (`Parser.expression_splits_chain`).

What is compared are outcomes: the value and the place behind it, or the cause of the error.  The
outcome of a reading is that of building the tree, so the parser fails exactly if the operands of
some node do not fit, and the first misfit in the order of the text is the one that it reports.

The heart of the proof is `Parser.outcome_climb`, on the loop behind a left operand.  It says what
the loop makes of a left operand that is itself a built tree, by induction on the number of links
that are left, and uses `Splits.absorb` each time that the loop goes round.
-/

set_option autoImplicit false

namespace RecordQuery

open Cursor

variable {ρ : Type}

/-! ## Outcomes -/

/-- The value that was read and the place behind it, or the cause why nothing was read. -/
def Cursor.Later.outcome {α : Type} {cursor : Cursor} :
    Except Stuck (Later cursor α) → Except Cause (α × Cursor)
  | .ok read => .ok (read.value, read.next)
  | .error stuck => .error stuck.error.cause

/-- The value that was read and the place behind it, or the cause why nothing was read. -/
def Cursor.NotEarlier.outcome {α : Type} {cursor : Cursor} :
    Except Stuck (NotEarlier cursor α) → Except Cause (α × Cursor)
  | .ok read => .ok (read.value, read.next)
  | .error stuck => .error stuck.error.cause

namespace Parser

section Steps

variable {now : DateTime} {scope : Scope ρ} {floor : Int} {cursor : Cursor} {value : Expr ρ}

theorem outcome_expression {first : Later cursor (Expr ρ)}
    {left : NotEarlier first.next (Expr ρ)} (begins : primary now scope cursor = .ok first)
    (suffixed : suffixes first.value first.next = .ok left) :
    Later.outcome (expression now scope floor cursor) =
      NotEarlier.outcome (continuation now scope floor left.value left.next) := by
  rw [expression, begins]
  simp only [bind, Except.bind, suffixed]
  cases continuation now scope floor left.value left.next with
  | ok whole => rfl
  | error stuck => rfl

theorem outcome_continuation_asked {popped : Popped cursor}
    (looks : cursor.lookahead = .ok popped) (isKeyword : popped.token.kind = .quantifier)
    {answered : Later popped.next (Expr ρ)}
    (asks : question now scope value popped.token popped.next = .ok answered) :
    NotEarlier.outcome (continuation now scope floor value cursor) =
      NotEarlier.outcome (continuation now scope floor answered.value answered.next) := by
  obtain ⟨⟨start, kind, lexeme, literal?⟩, next, no_longer, shorter⟩ := popped
  obtain rfl : kind = .quantifier := isKeyword
  rw [continuation, looks]
  simp only [bind, Except.bind, asks]
  cases continuation now scope floor answered.value answered.next with
  | ok whole => rfl
  | error stuck => rfl

theorem outcome_continuation_operator {popped : Popped cursor} {mark : Mark}
    {entry : BinaryEntry} (looks : cursor.lookahead = .ok popped)
    (isMark : popped.token.kind = .mark mark) (joins : mark.binary? = some entry)
    (binds : floor < entry.precedence) :
    NotEarlier.outcome (continuation now scope floor value cursor) =
      (Later.outcome (expression now scope entry.precedence popped.next) >>= fun right =>
        Expr.ofBinary entry value right.1 >>= fun joined =>
        NotEarlier.outcome (continuation now scope floor joined right.2)) := by
  obtain ⟨⟨start, kind, lexeme, literal?⟩, next, no_longer, shorter⟩ := popped
  obtain rfl : kind = .mark mark := isMark
  rw [continuation, looks]
  simp only [bind, Except.bind, joins, if_neg (Int.not_le.2 binds)]
  cases expression now scope entry.precedence next with
  | error stuck => rfl
  | ok right =>
      simp only [Later.outcome, settle]
      cases Expr.ofBinary entry value right.value with
      | error cause => rfl
      | ok joined =>
          simp only [Except.mapError]
          cases continuation now scope floor joined right.next with
          | ok whole => rfl
          | error stuck => rfl

end Steps

/-! ## Chains in the text -/

section Chains

variable (now : DateTime) (scope : Scope ρ)

/-- Questions about a value follow one another: the answer of one is asked about by the next. -/
inductive Questions : Expr ρ → Cursor → Expr ρ → Cursor → Prop
  | none {value : Expr ρ} {cursor : Cursor} : Questions value cursor value cursor
  | asked {value whole : Expr ρ} {cursor after : Cursor} {popped : Popped cursor}
      {answered : Later popped.next (Expr ρ)} (looks : cursor.lookahead = .ok popped)
      (isKeyword : popped.token.kind = .quantifier)
      (asks : question now scope value popped.token popped.next = .ok answered)
      (more : Questions answered.value answered.next whole after) :
      Questions value cursor whole after

/-- The parser accepts an operand: a primary expression, members of it, and questions. -/
def Accepts (operand : Operand ρ) : Prop :=
  ∃ first left, primary now scope operand.start = .ok first ∧
    suffixes first.value first.next = .ok left ∧
    Questions now scope left.value left.next operand.value operand.stop

/-- What may follow a chain: a closing parenthesis or brace, a comma, or the end. -/
def closing : List TokenKind :=
  [.mark .parenthesisClose, .mark .blockClose, .mark .comma, .endOfInput]

/-- Accepted operands with binary operators between them, and a closing token behind. -/
inductive Chain : Operand ρ → List (Link ρ) → Prop
  | closed {operand : Operand ρ} {popped : Popped operand.stop}
      (accepted : Accepts now scope operand) (looks : operand.stop.lookahead = .ok popped)
      (closes : popped.token.kind ∈ closing) : Chain operand []
  | link {operand : Operand ρ} {link : Link ρ} {links : List (Link ρ)}
      {popped : Popped operand.stop} {mark : Mark} (accepted : Accepts now scope operand)
      (looks : operand.stop.lookahead = .ok popped) (isMark : popped.token.kind = .mark mark)
      (joins : mark.binary? = some link.entry) (starts : link.operand.start = popped.next)
      (more : Chain link.operand links) : Chain operand (link :: links)

end Chains

end Parser

/-- The last operand of a chain. -/
def Operand.last (first : Operand ρ) : List (Link ρ) → Operand ρ
  | [] => first
  | link :: links => link.operand.last links

theorem Operand.last_append (first : Operand ρ) (before after : List (Link ρ)) :
    first.last (before ++ after) = (first.last before).last after := by
  induction before generalizing first with
  | nil => rfl
  | cons link before ih => exact ih link.operand

namespace Parser

variable {now : DateTime} {scope : Scope ρ} {first : Operand ρ} {links : List (Link ρ)}

theorem Chain.accepted (chain : Chain now scope first links) : Accepts now scope first := by
  cases chain with
  | closed accepted => exact accepted
  | link accepted => exact accepted

/-- What follows an operand of a chain is a chain from there. -/
theorem Chain.drop {before after : List (Link ρ)}
    (chain : Chain now scope first (before ++ after)) :
    Chain now scope (first.last before) after := by
  induction before generalizing first with
  | nil => exact chain
  | cons link before ih =>
      cases chain with
      | link _ _ _ _ _ more => exact ih more

theorem binary?_eq_none_of_closing {mark : Mark} (closes : TokenKind.mark mark ∈ closing) :
    mark.binary? = none := by
  simp only [closing, List.mem_cons, TokenKind.mark.injEq, reduceCtorEq, List.not_mem_nil,
    or_false] at closes
  rcases closes with rfl | rfl | rfl <;> rfl

/-- No expression goes on behind a closing token. -/
theorem stops_of_closing {token : Token} (closes : token.kind ∈ closing) (floor : Int) :
    token.word.Stops floor := by
  constructor
  · intro isKeyword
    rw [show token.kind = .quantifier from isKeyword] at closes
    exact absurd closes (by decide)
  · intro mark entry isMark joins
    rw [show token.kind = .mark mark from isMark] at closes
    rw [binary?_eq_none_of_closing closes] at joins
    cases joins

theorem outcome_questions {floor : Int} {value whole : Expr ρ} {cursor after : Cursor}
    (questions : Questions now scope value cursor whole after) :
    NotEarlier.outcome (continuation now scope floor value cursor) =
      NotEarlier.outcome (continuation now scope floor whole after) := by
  induction questions with
  | none => rfl
  | asked looks isKeyword asks _ ih => rw [outcome_continuation_asked looks isKeyword asks, ih]

/-- An accepted operand is read, and then the loop goes on behind it. -/
theorem outcome_accepted {floor : Int} {operand : Operand ρ}
    (accepted : Accepts now scope operand) :
    Later.outcome (expression now scope floor operand.start) =
      NotEarlier.outcome (continuation now scope floor operand.value operand.stop) := by
  obtain ⟨first, left, begins, suffixed, questions⟩ := accepted
  rw [outcome_expression begins suffixed, outcome_questions questions]

/-- An operand that stands in the text is accepted. -/
theorem accepts_of_reads {value whole : Expr ρ} {cursor : Cursor} {after rest : List Char}
    (begins : Reads now (.primary scope value) cursor.rest after)
    (suffixed : Reads now (.suffixes value whole) after rest) :
    ∃ operand : Operand ρ, operand.start = cursor ∧ operand.value = whole ∧
      operand.stop.rest = rest ∧ Accepts now scope operand := by
  obtain ⟨first, primary, rfl, rfl⟩ := parses_of_reads begins cursor rfl
  obtain ⟨left, suffixes, rfl, rfl⟩ := parses_of_reads suffixed first.next rfl
  exact ⟨⟨cursor, left.value, left.next⟩, rfl, rfl, rfl, first, left, primary, suffixes, .none⟩

/-! ## The loop -/

/-- The operators of a chain that are read with a floor: up to the first one that does not bind
tighter. -/
def reach (floor : Int) (links : List (Link ρ)) : List (Link ρ) :=
  links.takeWhile fun link => floor < link.precedence

/-- The operators of a chain that are left behind those. -/
def beyond (floor : Int) (links : List (Link ρ)) : List (Link ρ) :=
  links.dropWhile fun link => floor < link.precedence

theorem reach_append_beyond (floor : Int) (links : List (Link ρ)) :
    reach floor links ++ beyond floor links = links := List.takeWhile_append_dropWhile

theorem lt_of_mem_reach {floor : Int} {link : Link ρ} (mem : link ∈ reach floor links) :
    floor < link.precedence := by
  have all := List.all_eq_true.1 (List.all_takeWhile (l := links)) link mem
  simpa using all

theorem le_of_mem_head?_beyond {floor inner : Int} {link : Link ρ}
    (mem : link ∈ (reach floor (beyond inner links)).head?) : link.precedence ≤ inner := by
  have bound := List.head?_dropWhile_not (fun link : Link ρ => inner < link.precedence) links
  rw [reach, List.head?_takeWhile] at mem
  obtain ⟨head, _⟩ := Option.filter_eq_some_iff.1 mem
  rw [beyond] at head
  rw [head] at bound
  simpa using bound

theorem length_beyond_le (floor : Int) (links : List (Link ρ)) :
    (beyond floor links).length ≤ links.length :=
  (List.dropWhile_suffix _).length_le

/-- Behind an operator that binds, those that bind tighter than it are read first. -/
theorem reach_cons_of_lt {floor : Int} {link : Link ρ} (binds : floor < link.precedence) :
    reach floor (link :: links) =
      link :: reach link.precedence links ++ reach floor (beyond link.precedence links) := by
  have inside : ∀ other ∈ reach link.precedence links, decide (floor < other.precedence) = true :=
    fun other mem => decide_eq_true (Int.lt_trans binds (lt_of_mem_reach mem))
  have first : reach floor (link :: links) = link :: reach floor links :=
    List.takeWhile_cons_of_pos (decide_eq_true binds)
  rw [first, List.cons_append]
  congr 1
  calc reach floor links
      = reach floor (reach link.precedence links ++ beyond link.precedence links) := by
        rw [reach_append_beyond]
    _ = reach link.precedence links ++ reach floor (beyond link.precedence links) :=
        List.takeWhile_append_of_pos inside

/-- Joining a read right operand and going on is going on from what was joined. -/
theorem outcome_join {left : Expr ρ} {tree right : SplitTree ρ} {entry : BinaryEntry}
    {behind : Cursor} (goOn : Expr ρ → Cursor → Except Cause (Expr ρ × Cursor))
    (builds : tree.build = .ok left) :
    ((right.build.map fun value => (value, behind)) >>= fun read =>
        Expr.ofBinary entry left read.1 >>= fun joined => goOn joined read.2) =
      ((SplitTree.node entry tree right).build >>= fun joined => goOn joined behind) := by
  rw [SplitTree.build, builds]
  cases right.build with
  | error cause => rfl
  | ok value => rfl

/-- What the loop makes of a left operand that is a built tree, before the links of a chain. -/
theorem outcome_climb {first : Operand ρ} {links : List (Link ρ)}
    (chain : Chain now scope first links) (floor : Int) (tree : SplitTree ρ) {left : Expr ρ}
    (builds : tree.build = .ok left) :
    ∃ whole, Splits tree (reach floor links) whole ∧
      NotEarlier.outcome (continuation now scope floor left first.stop) =
        whole.build.map fun value => (value, (first.last (reach floor links)).stop) := by
  cases chain with
  | closed _ looks closes =>
      refine ⟨tree, .whole, ?_⟩
      rw [continuation_of_stops looks (stops_of_closing closes floor), builds]
      rfl
  | @link _ link links popped mark _ looks isMark joins starts more =>
      rcases Int.lt_or_le floor link.precedence with binds | bound
      · -- The right operand takes the operators that bind tighter, the loop goes on beyond them.
        obtain ⟨right, right_splits, right_read⟩ :=
          outcome_climb more link.precedence (.operand link.operand.value) rfl
        rw [← outcome_accepted more.accepted, starts] at right_read
        have rest : Chain now scope (link.operand.last (reach link.precedence links))
            (beyond link.precedence links) :=
          Chain.drop ((reach_append_beyond link.precedence links).symm ▸ more)
        have absorbs : ∀ {whole : SplitTree ρ},
            Splits (.node link.entry tree right) (reach floor (beyond link.precedence links))
              whole → Splits tree (reach floor (link :: links)) whole := by
          intro whole splits
          rw [reach_cons_of_lt binds]
          exact right_splits.absorb (fun _ => lt_of_mem_reach) (fun _ => le_of_mem_head?_beyond)
            splits
        have last : first.last (reach floor (link :: links)) =
            (link.operand.last (reach link.precedence links)).last
              (reach floor (beyond link.precedence links)) := by
          rw [reach_cons_of_lt binds]
          exact link.operand.last_append _ _
        have shorter := length_beyond_le link.precedence links
        rw [outcome_continuation_operator looks isMark joins binds,
          show link.entry.precedence = link.precedence from rfl, right_read,
          outcome_join (fun value next =>
            NotEarlier.outcome (continuation now scope floor value next)) builds, last]
        cases joined : (SplitTree.node link.entry tree right).build with
        | error cause =>
            obtain ⟨whole, splits⟩ := exists_splits (.node link.entry tree right)
              (reach floor (beyond link.precedence links))
            exact ⟨whole, absorbs splits, by rw [splits.build_error joined]; rfl⟩
        | ok value =>
            obtain ⟨whole, splits, continues⟩ :=
              outcome_climb rest floor (.node link.entry tree right) joined
            exact ⟨whole, absorbs splits, continues⟩
      · have stops : popped.token.word.Stops floor := by
          refine ⟨fun isKeyword => ?_, fun other found same joined => ?_⟩
          · cases isMark.symm.trans isKeyword
          · cases isMark.symm.trans same
            cases joins.symm.trans joined
            exact bound
        have none_reached : reach floor (link :: links) = [] :=
          List.takeWhile_cons_of_neg (by simpa using bound)
        rw [none_reached, continuation_of_stops looks stops]
        exact ⟨tree, .whole, by rw [builds]; rfl⟩
termination_by links.length

/-! ## Unary operators -/

theorem lowestPrecedence_lt {mark : Mark} {entry : BinaryEntry}
    (joins : mark.binary? = some entry) : lowestPrecedence < entry.precedence := by
  cases mark <;> cases joins <;> decide

theorem suffixes_of_no_members {base : Expr ρ} {cursor : Cursor}
    {read : NotEarlier cursor (Expr ρ)} (none : base.type.members = [])
    (suffixed : suffixes base cursor = .ok read) : read.value = base ∧ read.next = cursor := by
  rw [suffixes] at suffixed
  obtain ⟨tried, _, suffixed⟩ := bind_eq_ok_iff.1 suffixed
  cases tried with
  | none =>
      cases suffixed
      exact ⟨rfl, rfl⟩
  | some dot =>
      obtain ⟨name, _, suffixed⟩ := bind_eq_ok_iff.1 suffixed
      obtain ⟨owner, resolves, _⟩ := bind_eq_ok_iff.1 suffixed
      obtain ⟨found, resolved, _⟩ := Expr.ofMember_eq_ok_iff.1 (settle_eq_ok_iff.1 resolves)
      have listed := ValueType.mem_of_resolveMember resolved
      rw [none] at listed
      cases listed

theorem Questions.eq_of_no_keyword {value whole : Expr ρ} {cursor after : Cursor}
    (questions : Questions now scope value cursor whole after)
    (no_keyword : ∀ popped : Popped cursor, cursor.lookahead = .ok popped →
      popped.token.kind ≠ .quantifier) : whole = value ∧ after = cursor := by
  cases questions with
  | none => exact ⟨rfl, rfl⟩
  | asked looks isKeyword => exact absurd isKeyword (no_keyword _ looks)

/-- A unary operator is applied to an expression without a floor. -/
theorem primary_of_unary {cursor : Cursor} {popped : Popped cursor} {mark : Mark} {op : UnaryOp}
    {first : Later cursor (Expr ρ)} (looks : cursor.lookahead = .ok popped)
    (isMark : popped.token.kind = .mark mark) (prefixes : mark.unary? = some op)
    (begins : primary now scope cursor = .ok first) :
    ∃ inner, expression now scope lowestPrecedence popped.next = .ok inner ∧
      inner.next = first.next ∧
      Expr.ofUnary op popped.token.lexeme inner.value = .ok first.value := by
  obtain ⟨⟨start, kind, lexeme, literal?⟩, next, no_longer, shorter⟩ := popped
  obtain rfl : kind = .mark mark := isMark
  have token : firstToken cursor = .ok ⟨⟨start, .mark mark, lexeme, literal?⟩, next,
      shorter nofun⟩ := by
    rw [firstToken]
    exact bind_ok (lookahead_eq_ok_iff.1 looks) rfl
  rw [primary] at begins
  obtain ⟨taken, takes, begins⟩ := bind_eq_ok_iff.1 begins
  cases token.symm.trans takes
  cases mark <;> cases prefixes
  all_goals
    obtain ⟨inner, expressed, begins⟩ := bind_eq_ok_iff.1 begins
    obtain ⟨whole, builds, begins⟩ := bind_eq_ok_iff.1 begins
    cases begins
    exact ⟨inner, expressed, rfl, settle_eq_ok_iff.1 builds⟩

/-- An operand that begins with a unary operator is the last one of its chain, and the operand of
the operator is all of the text up to the closing token. -/
theorem Chain.unary (chain : Chain now scope first links) {popped : Popped first.start}
    {mark : Mark} {op : UnaryOp} (looks : first.start.lookahead = .ok popped)
    (isMark : popped.token.kind = .mark mark) (prefixes : mark.unary? = some op) :
    links = [] ∧ ∃ inner, expression now scope lowestPrecedence popped.next = .ok inner ∧
      inner.next = first.stop ∧
      Expr.ofUnary op popped.token.lexeme inner.value = .ok first.value := by
  obtain ⟨primary, left, begins, suffixed, questions⟩ := chain.accepted
  obtain ⟨inner, expressed, ends, builds⟩ := primary_of_unary looks isMark prefixes begins
  have no_members := (Expr.scalar_of_ofUnary builds).members_eq_nil
  obtain ⟨same, stays⟩ := suffixes_of_no_members no_members suffixed
  obtain ⟨word, after, reads, stops⟩ := (expression_sound expressed).endsBefore
  -- Whatever stands behind the operand of the operator, it begins no question and joins nothing.
  have next_stops : ∀ {cursor : Cursor} {popped : Popped cursor}, cursor = inner.next →
      cursor.lookahead = .ok popped → popped.token.word.Stops lowestPrecedence := by
    rintro _ popped rfl looks
    cases reads.symm.trans (read?_of_pop (lookahead_eq_ok_iff.1 looks))
    exact stops
  obtain ⟨last, stop⟩ := questions.eq_of_no_keyword fun popped looks =>
    (next_stops (stays.trans ends.symm) looks).1
  have behind : first.stop = inner.next := stop.trans (stays.trans ends.symm)
  refine ⟨?_, inner, expressed, behind.symm, by rw [last, same]; exact builds⟩
  cases chain with
  | closed => rfl
  | link _ looks isMark joins =>
      have bound := (next_stops behind looks).2 _ _ isMark joins
      have above := lowestPrecedence_lt joins
      omega

/-! ## Chains -/

/-- The parser reads a chain up to the first operator that does not bind tighter than the floor,
and builds the one tree that splits what it has read at its rightmost loosest operators.  It fails
exactly where that tree has a node that does not fit.  An operand that begins with a unary operator
is the last one, and everything behind the operator is its operand. -/
theorem expression_splits_chain {now : DateTime} {scope : Scope ρ} {first : Operand ρ}
    {links : List (Link ρ)} (chain : Chain now scope first links) (floor : Int) :
    (∃ tree, Splits (.operand first.value) (reach floor links) tree ∧
      (∀ other, Splits (.operand first.value) (reach floor links) other → other = tree) ∧
      Later.outcome (expression now scope floor first.start) =
        tree.build.map (fun value => (value, (first.last (reach floor links)).stop)) ∧
      ((∃ stuck, expression now scope floor first.start = .error stuck) ↔ tree.HasMisfit)) ∧
    ∀ (before after : List (Link ρ)), links = before ++ after →
      ∀ {popped : Popped (first.last before).start} {mark : Mark} {op : UnaryOp},
        (first.last before).start.lookahead = .ok popped → popped.token.kind = .mark mark →
        mark.unary? = some op →
          after = [] ∧ ∃ inner, expression now scope lowestPrecedence popped.next = .ok inner ∧
            inner.next = (first.last before).stop ∧
            Expr.ofUnary op popped.token.lexeme inner.value = .ok (first.last before).value := by
  constructor
  · obtain ⟨tree, splits, reads⟩ := outcome_climb chain floor (.operand first.value) rfl
    rw [← outcome_accepted chain.accepted] at reads
    refine ⟨tree, splits, fun other others => splits.unique others, reads, ?_⟩
    rw [← SplitTree.build_eq_error_iff]
    cases result : expression now scope floor first.start with
    | error stuck =>
        cases built : tree.build with
        | error cause => simp
        | ok value => simp [result, built, Later.outcome, Except.map] at reads
    | ok read =>
        cases built : tree.build with
        | error cause => simp [result, built, Later.outcome, Except.map] at reads
        | ok value => simp
  · rintro before after rfl popped mark op looks isMark prefixes
    exact chain.drop.unary looks isMark prefixes

theorem expression_splits_chain_to_the_left :
    ∃ (now : DateTime) (scope : Scope Json) (first : Operand Json) (links : List (Link Json)),
      first.start = Cursor.start "1 - 2 - 3" ∧ Chain now scope first links ∧
      links.map (·.entry.mark) = [.minus, .minus] ∧
      Later.outcome (expression now scope lowestPrecedence (Cursor.start "1 - 2 - 3")) =
        .ok (.binary .subtract .integer
          (.binary .subtract .integer (.literal (.integer 1)) (.literal (.integer 2)))
          (.literal (.integer 3)), (first.last links).stop) := by
  -- An operand that is a number, and the token behind it.
  have number : ∀ (cursor : Cursor) (value : Literal) (lexeme : String) (rest after : List Char)
      (next : Word), Word.read? cursor.rest = some (⟨.literal, lexeme, some value⟩, rest) →
      Word.read? rest = some (next, after) → next.kind ≠ .mark .dot →
      ∃ (operand : Operand Json) (popped : Popped operand.stop), operand.start = cursor ∧
        operand.value = .literal value ∧ operand.stop.lookahead = .ok popped ∧
        popped.token.word = next ∧ popped.next.rest = after ∧
        Accepts ⟨⟨0, by decide⟩, .midnight⟩ ⟨.integer, []⟩ operand := by
    intro cursor value lexeme rest after next reads follows other
    obtain ⟨operand, start, value, stop, accepted⟩ :=
      accepts_of_reads (.literal reads rfl rfl) (.noSuffix follows other)
    rw [← stop] at follows
    obtain ⟨popped, pops, word, behind⟩ := pop_of_read? follows
    exact ⟨operand, popped, start, value, lookahead_eq_ok_iff.2 pops, word, behind, accepted⟩
  obtain ⟨one, minus, start, value, looks, word, behind, accepted⟩ :=
    number (Cursor.start "1 - 2 - 3") (.integer 1) "1" " - 2 - 3".toList " 2 - 3".toList
      ⟨.mark .minus, "-", none⟩ rfl rfl (by decide)
  obtain ⟨two, minus', start', value', looks', word', behind', accepted'⟩ :=
    number minus.next (.integer 2) "2" " - 3".toList " 3".toList ⟨.mark .minus, "-", none⟩
      (by rw [behind]; rfl) rfl (by decide)
  obtain ⟨three, ending, start'', value'', looks'', word'', _, accepted''⟩ :=
    number minus'.next (.integer 3) "3" [] [] .ending (by rw [behind']; rfl) rfl (by decide)
  have subtract : Mark.minus.binary? = some ⟨.minus, 90, .value .subtract⟩ := rfl
  have chain : Chain ⟨⟨0, by decide⟩, .midnight⟩ ⟨.integer, []⟩ one
      [⟨⟨.minus, 90, .value .subtract⟩, two⟩, ⟨⟨.minus, 90, .value .subtract⟩, three⟩] :=
    .link accepted looks (congrArg Word.kind word) subtract start' <|
      .link accepted' looks' (congrArg Word.kind word') subtract start'' <|
        .closed accepted'' looks'' (by
          rw [show ending.token.kind = _ from congrArg Word.kind word'']
          decide)
  obtain ⟨tree, _, only, reads, _⟩ := (expression_splits_chain chain lowestPrecedence).1
  have left := @Splits.node Json _ _ _ [] [] ⟨⟨.minus, 90, .value .subtract⟩, two⟩
    (by simp) (by simp) (.whole : Splits (.operand one.value) [] _) .whole
  have whole := @Splits.node Json _ _ _ [⟨⟨.minus, 90, .value .subtract⟩, two⟩] []
    ⟨⟨.minus, 90, .value .subtract⟩, three⟩ (by simp [Link.precedence]) (by simp) left .whole
  rw [← only _ whole, start, value, value', value''] at reads
  exact ⟨_, _, one, _, start, chain, rfl, reads⟩

end Parser

end RecordQuery
