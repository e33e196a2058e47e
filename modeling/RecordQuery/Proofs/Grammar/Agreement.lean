import RecordQuery.Proofs.Grammar.Derivation

/-!
# The parser and the grammar agree

The readers of the parser find exactly the derivations of the grammar.  What a reader returns
is derivable (`Parser.expression_sound` and its companions), by recursion on the text that is
left, as in the parser itself.  Conversely the reader of a derivable phrase succeeds at every
cursor with that text (`Parser.parses_of_reads`), by induction on the derivation.  Since a
cursor determines what is read there, a text derives a phrase of a kind in one way only.
-/

set_option autoImplicit false

namespace RecordQuery

namespace Parser

open Cursor

variable {ρ : Type} {now : DateTime}

/-! ## What is read is derivable -/

theorem suffixes_sound {base : Expr ρ} {cursor : Cursor} {read : NotEarlier cursor (Expr ρ)}
    (returns : suffixes base cursor = .ok read) :
    Reads now (.suffixes base read.value) cursor.rest read.next.rest := by
  rw [suffixes] at returns
  obtain ⟨tried, tries, returns⟩ := bind_eq_ok_iff.1 returns
  cases tried with
  | none =>
      cases returns
      obtain ⟨word, rest, next, other⟩ := read?_of_tryTake_none tries
      exact .noSuffix next other
  | some taken =>
      obtain ⟨point, isDot⟩ := read?_of_tryTake tries
      obtain ⟨name, takes, returns⟩ := bind_eq_ok_iff.1 returns
      obtain ⟨named, isName⟩ := read?_of_take takes
      obtain ⟨owner, settles, returns⟩ := bind_eq_ok_iff.1 returns
      obtain ⟨whole, suffixed, returns⟩ := bind_eq_ok_iff.1 returns
      cases returns
      have shorter := taken.shorter
      have shorter' := name.shorter
      exact .suffix point isDot named isName (settle_eq_ok_iff.1 settles) (suffixes_sound suffixed)
termination_by cursor.rest.length

mutual

theorem expression_sound {scope : Scope ρ} {floor : Int} {cursor : Cursor}
    {read : Later cursor (Expr ρ)} (returns : expression now scope floor cursor = .ok read) :
    Reads now (.expression scope floor read.value) cursor.rest read.next.rest := by
  rw [expression] at returns
  obtain ⟨first, primary, returns⟩ := bind_eq_ok_iff.1 returns
  obtain ⟨left, suffixed, returns⟩ := bind_eq_ok_iff.1 returns
  obtain ⟨whole, continued, returns⟩ := bind_eq_ok_iff.1 returns
  cases returns
  have shorter := first.shorter
  have no_longer := left.no_longer
  exact .expression (primary_sound primary) (suffixes_sound suffixed) (continuation_sound continued)
termination_by 3 * cursor.rest.length + 1
decreasing_by all_goals omega

theorem primary_sound {scope : Scope ρ} {cursor : Cursor}
    {read : Later cursor (Expr ρ)} (returns : primary now scope cursor = .ok read) :
    Reads now (.primary scope read.value) cursor.rest read.next.rest := by
  rw [primary] at returns
  obtain ⟨first, firstRead, returns⟩ := bind_eq_ok_iff.1 returns
  have shorter := first.shorter
  have reads := read?_of_firstToken firstRead
  simp only at returns
  split at returns
  · next isName =>
    obtain ⟨peeked, peeks, returns⟩ := bind_eq_ok_iff.1 returns
    obtain ⟨after, follows⟩ := read?_of_peek peeks
    split at returns
    · next isOpen =>
      obtain ⟨values, listed, returns⟩ := bind_eq_ok_iff.1 returns
      obtain ⟨whole, builds, returns⟩ := bind_eq_ok_iff.1 returns
      cases returns
      exact .call reads isName follows isOpen (arguments_sound listed) (settle_eq_ok_iff.1 builds)
    · next other =>
      obtain ⟨whole, resolves, returns⟩ := bind_eq_ok_iff.1 returns
      cases returns
      exact .name reads isName follows other (settle_eq_ok_iff.1 resolves)
  · next isNow =>
    cases returns
    exact .now reads isNow
  · next isRun =>
    obtain ⟨whole, resolves, returns⟩ := bind_eq_ok_iff.1 returns
    cases returns
    exact .input reads isRun (settle_eq_ok_iff.1 resolves)
  · next isLiteral =>
    split at returns
    · next carries =>
      cases returns
      exact .literal reads isLiteral carries
    · cases returns
  · next isOpen =>
    obtain ⟨inner, expressed, returns⟩ := bind_eq_ok_iff.1 returns
    obtain ⟨closing, takes, returns⟩ := bind_eq_ok_iff.1 returns
    cases returns
    obtain ⟨closes, isClose⟩ := read?_of_take takes
    exact .group reads isOpen (expression_sound expressed) closes isClose
  · next isMark =>
    split at returns
    · next prefixes =>
      obtain ⟨operand, expressed, returns⟩ := bind_eq_ok_iff.1 returns
      obtain ⟨whole, builds, returns⟩ := bind_eq_ok_iff.1 returns
      cases returns
      exact .unary reads isMark prefixes (expression_sound expressed) (settle_eq_ok_iff.1 builds)
    · cases returns
  · cases returns
termination_by 3 * cursor.rest.length
decreasing_by all_goals omega

theorem arguments_sound {scope : Scope ρ} {cursor : Cursor}
    {read : Later cursor (List (Expr ρ))} (returns : arguments now scope cursor = .ok read) :
    Reads now (.arguments scope read.value) cursor.rest read.next.rest := by
  rw [arguments] at returns
  obtain ⟨opening, takes, returns⟩ := bind_eq_ok_iff.1 returns
  obtain ⟨opens, isOpen⟩ := read?_of_take takes
  obtain ⟨tried, tries, returns⟩ := bind_eq_ok_iff.1 returns
  cases tried with
  | some closing =>
      cases returns
      obtain ⟨closes, isClose⟩ := read?_of_tryTake tries
      exact .noArguments opens isOpen closes isClose
  | none =>
      obtain ⟨values, all, returns⟩ := bind_eq_ok_iff.1 returns
      obtain ⟨closing, takes, returns⟩ := bind_eq_ok_iff.1 returns
      cases returns
      obtain ⟨next, after, follows, other⟩ := read?_of_tryTake_none tries
      obtain ⟨closes, isClose⟩ := read?_of_take takes
      have shorter := opening.shorter
      exact .arguments opens isOpen follows other (listed_sound all) closes isClose
termination_by 3 * cursor.rest.length
decreasing_by omega

theorem listed_sound {scope : Scope ρ} {cursor : Cursor}
    {read : Later cursor (List (Expr ρ))} (returns : listed now scope cursor = .ok read) :
    Reads now (.listed scope read.value) cursor.rest read.next.rest := by
  rw [listed] at returns
  obtain ⟨value, expressed, returns⟩ := bind_eq_ok_iff.1 returns
  obtain ⟨tried, tries, returns⟩ := bind_eq_ok_iff.1 returns
  cases tried with
  | some comma =>
      obtain ⟨values, more, returns⟩ := bind_eq_ok_iff.1 returns
      cases returns
      obtain ⟨separates, isComma⟩ := read?_of_tryTake tries
      have shorter := value.shorter
      have shorter' := comma.shorter
      exact .cons (expression_sound expressed) separates isComma (listed_sound more)
  | none =>
      cases returns
      obtain ⟨next, after, follows, other⟩ := read?_of_tryTake_none tries
      exact .last (expression_sound expressed) follows other
termination_by 3 * cursor.rest.length + 2
decreasing_by all_goals omega

theorem continuation_sound {scope : Scope ρ} {floor : Int} {left : Expr ρ} {cursor : Cursor}
    {read : NotEarlier cursor (Expr ρ)}
    (returns : continuation now scope floor left cursor = .ok read) :
    Reads now (.continuation scope floor left read.value) cursor.rest read.next.rest := by
  rw [continuation] at returns
  obtain ⟨⟨token, next, no_longer, shorter⟩, looks, returns⟩ := bind_eq_ok_iff.1 returns
  have reads := read?_of_pop (lookahead_eq_ok_iff.1 looks)
  simp only at returns reads
  split at returns
  · next isKeyword =>
    obtain ⟨answered, asked, returns⟩ := bind_eq_ok_iff.1 returns
    obtain ⟨whole, continued, returns⟩ := bind_eq_ok_iff.1 returns
    cases returns
    have shorter := shorter (by rw [isKeyword]; nofun)
    have shorter' := answered.shorter
    exact .asked reads isKeyword (question_sound asked) (continuation_sound continued)
  · next mark isMark =>
    have shorter := shorter (by rw [isMark]; nofun)
    split at returns
    · next entry joins =>
      split at returns
      · next bound =>
        cases returns
        refine .stop reads ⟨by rw [Token.word, isMark]; nofun, ?_⟩
        intro other found same joined
        cases isMark.symm.trans same
        cases joins.symm.trans joined
        exact bound
      · next binds =>
        obtain ⟨right, expressed, returns⟩ := bind_eq_ok_iff.1 returns
        obtain ⟨joined, builds, returns⟩ := bind_eq_ok_iff.1 returns
        obtain ⟨whole, continued, returns⟩ := bind_eq_ok_iff.1 returns
        cases returns
        have shorter' := right.shorter
        exact .operator reads isMark joins (Int.not_le.1 binds) (expression_sound expressed)
          (settle_eq_ok_iff.1 builds) (continuation_sound continued)
    · next alone =>
      cases returns
      refine .stop reads ⟨by rw [Token.word, isMark]; nofun, ?_⟩
      intro other found same joined
      cases isMark.symm.trans same
      cases alone.symm.trans joined
  · next noKeyword noMark =>
    cases returns
    exact .stop reads ⟨noKeyword, fun mark entry same => absurd same (noMark mark)⟩
termination_by 3 * cursor.rest.length
decreasing_by all_goals omega

theorem question_sound {scope : Scope ρ} {source : Expr ρ} {keyword : Token} {cursor : Cursor}
    {read : Later cursor (Expr ρ)} (returns : question now scope source keyword cursor = .ok read) :
    Reads now (.question scope keyword.lexeme source read.value) cursor.rest read.next.rest := by
  rw [question] at returns
  split at returns
  · next element sequence =>
    obtain ⟨opening, takes, returns⟩ := bind_eq_ok_iff.1 returns
    obtain ⟨opens, isOpen⟩ := read?_of_take takes
    obtain ⟨⟨predicate, afterBlock, _⟩, expressed, returns⟩ := bind_eq_ok_iff.1 returns
    have shorter := opening.shorter
    simp only at returns
    split at returns
    · cases returns
    · next boolean =>
      obtain ⟨closing, takes, returns⟩ := bind_eq_ok_iff.1 returns
      cases returns
      obtain ⟨closes, isClose⟩ := read?_of_take takes
      exact .question sequence opens isOpen (expression_sound expressed) (by simpa using boolean)
        closes isClose
  · cases returns
termination_by 3 * cursor.rest.length
decreasing_by omega

end

end Parser

/-! ## What is derivable is read -/

open Cursor in
/-- The reader of a phrase succeeds at a cursor, with the text that it leaves. -/
def Phrase.Parses {ρ : Type} (now : DateTime) (cursor : Cursor) (rest : List Char) :
    Phrase ρ → Prop
  | .suffixes base whole =>
      ∃ read, Parser.suffixes base cursor = .ok read ∧ read.value = whole ∧ read.next.rest = rest
  | .expression scope floor whole =>
      ∃ read, Parser.expression now scope floor cursor = .ok read ∧ read.value = whole ∧
        read.next.rest = rest
  | .primary scope whole =>
      ∃ read, Parser.primary now scope cursor = .ok read ∧ read.value = whole ∧
        read.next.rest = rest
  | .arguments scope values =>
      ∃ read, Parser.arguments now scope cursor = .ok read ∧ read.value = values ∧
        read.next.rest = rest
  | .listed scope values =>
      ∃ read, Parser.listed now scope cursor = .ok read ∧ read.value = values ∧
        read.next.rest = rest
  | .continuation scope floor left whole =>
      ∃ read, Parser.continuation now scope floor left cursor = .ok read ∧ read.value = whole ∧
        read.next.rest = rest
  | .question scope keyword source whole =>
      ∀ token : Token, token.lexeme = keyword →
        ∃ read, Parser.question now scope source token cursor = .ok read ∧ read.value = whole ∧
          read.next.rest = rest

namespace Parser

open Cursor

variable {ρ : Type} {now : DateTime}

/-- Nothing more is read before a word that stops an expression. -/
theorem continuation_of_stops {scope : Scope ρ} {floor : Int} {left : Expr ρ} {cursor : Cursor}
    {popped : Popped cursor} (looks : cursor.lookahead = .ok popped)
    (stops : popped.token.word.Stops floor) :
    continuation now scope floor left cursor = .ok ⟨left, cursor, Nat.le_refl _⟩ := by
  obtain ⟨⟨start, kind, lexeme, literal?⟩, next, no_longer, shorter⟩ := popped
  rw [continuation]
  refine bind_ok looks ?_
  cases kind with
  | quantifier => exact absurd rfl stops.1
  | mark mark =>
      simp only
      split
      · next entry joins =>
          rw [if_pos (stops.2 mark entry rfl joins)]
          rfl
      · rfl
  | _ => rfl

theorem parses_of_reads {phrase : Phrase ρ} {text rest : List Char}
    (derivation : Reads now phrase text rest) :
    ∀ cursor : Cursor, cursor.rest = text → phrase.Parses now cursor rest := by
  induction derivation with
  | noSuffix next other =>
      rintro cursor rfl
      rw [Phrase.Parses, suffixes]
      exact ⟨_, bind_ok (tryTake_none_of_read? next other) rfl, rfl, rfl⟩
  | suffix point isDot named isName resolves more ih =>
      rintro cursor rfl
      obtain ⟨dot, tries, rfl, rfl⟩ := tryTake_of_read? point isDot
      obtain ⟨name, takes, rfl, rfl⟩ := take_of_read? named isName
      obtain ⟨whole, suffixed, rfl, rfl⟩ := ih name.next rfl
      rw [Phrase.Parses, suffixes]
      exact ⟨_, bind_ok tries (bind_ok takes (bind_ok (settle_eq_ok_iff.2 resolves)
        (bind_ok suffixed rfl))), rfl, rfl⟩
  | expression primary suffixes continuation ihPrimary ihSuffixes ihContinuation =>
      rintro cursor rfl
      obtain ⟨first, begun, rfl, rfl⟩ := ihPrimary cursor rfl
      obtain ⟨left, suffixed, rfl, rfl⟩ := ihSuffixes first.next rfl
      obtain ⟨whole, continued, rfl, rfl⟩ := ihContinuation left.next rfl
      rw [Phrase.Parses, Parser.expression]
      exact ⟨_, bind_ok begun (bind_ok suffixed (bind_ok continued rfl)), rfl, rfl⟩
  | call named isName opens isOpen arguments builds ih =>
      rintro cursor rfl
      obtain ⟨⟨⟨start, kind, lexeme, literal?⟩, next, shorter⟩, first, rfl, rfl⟩ :=
        firstToken_of_read? named (by rw [isName]; decide)
      obtain rfl : kind = .identifier := isName
      obtain ⟨peeked, peeks, rfl⟩ := peek_of_read? opens
      obtain ⟨values, listed, rfl, rfl⟩ := ih next rfl
      rw [Phrase.Parses, Parser.primary]
      exact ⟨_, bind_ok first (bind_ok peeks ((if_pos isOpen).trans
        (bind_ok listed (bind_ok (settle_eq_ok_iff.2 builds) rfl)))), rfl, rfl⟩
  | name named isName follows other resolves =>
      rintro cursor rfl
      obtain ⟨⟨⟨start, kind, lexeme, literal?⟩, next, shorter⟩, first, rfl, rfl⟩ :=
        firstToken_of_read? named (by rw [isName]; decide)
      obtain rfl : kind = .identifier := isName
      obtain ⟨peeked, peeks, rfl⟩ := peek_of_read? follows
      rw [Phrase.Parses, Parser.primary]
      exact ⟨_, bind_ok first (bind_ok peeks ((if_neg other).trans
        (bind_ok (settle_eq_ok_iff.2 resolves) rfl))), rfl, rfl⟩
  | now reads isNow =>
      rintro cursor rfl
      obtain ⟨⟨⟨start, kind, lexeme, literal?⟩, next, shorter⟩, first, rfl, rfl⟩ :=
        firstToken_of_read? reads (by rw [isNow]; decide)
      obtain rfl : kind = .now := isNow
      rw [Phrase.Parses, Parser.primary]
      exact ⟨_, bind_ok first rfl, rfl, rfl⟩
  | input reads isRun resolves =>
      rintro cursor rfl
      obtain ⟨⟨⟨start, kind, lexeme, literal?⟩, next, shorter⟩, first, rfl, rfl⟩ :=
        firstToken_of_read? reads (by rw [isRun]; decide)
      obtain rfl : kind = .input := isRun
      rw [Phrase.Parses, Parser.primary]
      exact ⟨_, bind_ok first (bind_ok (settle_eq_ok_iff.2 resolves) rfl), rfl, rfl⟩
  | literal reads isLiteral carries =>
      rintro cursor rfl
      obtain ⟨⟨⟨start, kind, lexeme, literal?⟩, next, shorter⟩, first, rfl, rfl⟩ :=
        firstToken_of_read? reads (by rw [isLiteral]; decide)
      obtain rfl : kind = .literal := isLiteral
      obtain rfl : literal? = some _ := carries
      rw [Phrase.Parses, Parser.primary]
      exact ⟨_, bind_ok first rfl, rfl, rfl⟩
  | group opens isOpen expression closes isClose ih =>
      rintro cursor rfl
      obtain ⟨⟨⟨start, kind, lexeme, literal?⟩, next, shorter⟩, first, rfl, rfl⟩ :=
        firstToken_of_read? opens (by rw [isOpen]; decide)
      obtain rfl : kind = .mark .parenthesisOpen := isOpen
      obtain ⟨inner, expressed, rfl, rfl⟩ := ih next rfl
      obtain ⟨closing, takes, rfl, rfl⟩ := take_of_read? closes isClose
      rw [Phrase.Parses, Parser.primary]
      exact ⟨_, bind_ok first (bind_ok expressed (bind_ok takes rfl)), rfl, rfl⟩
  | @unary scope operand whole text afterMark rest word mark op reads isMark prefixes expression
      builds ih =>
      rintro cursor rfl
      obtain ⟨⟨⟨start, kind, lexeme, literal?⟩, next, shorter⟩, first, rfl, rfl⟩ :=
        firstToken_of_read? reads (by rw [isMark]; nofun)
      obtain rfl : kind = .mark mark := isMark
      obtain ⟨operand, expressed, rfl, rfl⟩ := ih next rfl
      rw [Phrase.Parses, Parser.primary]
      cases mark <;> cases prefixes
      all_goals
        exact ⟨_, bind_ok first (bind_ok expressed (bind_ok (settle_eq_ok_iff.2 builds) rfl)),
          rfl, rfl⟩
  | noArguments opens isOpen closes isClose =>
      rintro cursor rfl
      obtain ⟨opening, takes, rfl, rfl⟩ := take_of_read? opens isOpen
      obtain ⟨closing, tries, rfl, rfl⟩ := tryTake_of_read? closes isClose
      rw [Phrase.Parses, Parser.arguments]
      exact ⟨_, bind_ok takes (bind_ok tries rfl), rfl, rfl⟩
  | arguments opens isOpen follows other listed closes isClose ih =>
      rintro cursor rfl
      obtain ⟨opening, takes, rfl, rfl⟩ := take_of_read? opens isOpen
      obtain ⟨values, all, rfl, rfl⟩ := ih opening.next rfl
      obtain ⟨closing, takes', rfl, rfl⟩ := take_of_read? closes isClose
      rw [Phrase.Parses, Parser.arguments]
      exact ⟨_, bind_ok takes (bind_ok (tryTake_none_of_read? follows other)
        (bind_ok all (bind_ok takes' rfl))), rfl, rfl⟩
  | last expression follows other ih =>
      rintro cursor rfl
      obtain ⟨value, expressed, rfl, rfl⟩ := ih cursor rfl
      rw [Phrase.Parses, Parser.listed]
      exact ⟨_, bind_ok expressed (bind_ok (tryTake_none_of_read? follows other) rfl), rfl, rfl⟩
  | cons expression separates isComma listed ihExpression ihListed =>
      rintro cursor rfl
      obtain ⟨value, expressed, rfl, rfl⟩ := ihExpression cursor rfl
      obtain ⟨comma, tries, rfl, rfl⟩ := tryTake_of_read? separates isComma
      obtain ⟨values, more, rfl, rfl⟩ := ihListed comma.next rfl
      rw [Phrase.Parses, Parser.listed]
      exact ⟨_, bind_ok expressed (bind_ok tries (bind_ok more rfl)), rfl, rfl⟩
  | stop follows stops =>
      rintro cursor rfl
      obtain ⟨popped, pops, rfl, rfl⟩ := pop_of_read? follows
      rw [Phrase.Parses]
      exact ⟨_, continuation_of_stops (lookahead_eq_ok_iff.2 pops) stops, rfl, rfl⟩
  | asked reads isKeyword question continuation ihQuestion ihContinuation =>
      rintro cursor rfl
      obtain ⟨⟨⟨start, kind, lexeme, literal?⟩, next, no_longer, shorter⟩, pops, rfl, rfl⟩ :=
        pop_of_read? reads
      obtain rfl : kind = .quantifier := isKeyword
      obtain ⟨answered, asked, rfl, rfl⟩ :=
        ihQuestion next rfl ⟨start, .quantifier, lexeme, literal?⟩ rfl
      obtain ⟨whole, continued, rfl, rfl⟩ := ihContinuation answered.next rfl
      rw [Phrase.Parses, Parser.continuation]
      exact ⟨_, bind_ok (lookahead_eq_ok_iff.2 pops) (bind_ok asked (bind_ok continued rfl)),
        rfl, rfl⟩
  | @operator scope floor left right joined whole text afterMark afterRight rest word mark entry
      reads isMark joins binds expression builds continuation ihExpression ihContinuation =>
      rintro cursor rfl
      obtain ⟨⟨⟨start, kind, lexeme, literal?⟩, next, no_longer, shorter⟩, pops, rfl, rfl⟩ :=
        pop_of_read? reads
      obtain rfl : kind = .mark mark := isMark
      obtain ⟨right, expressed, rfl, rfl⟩ := ihExpression next rfl
      obtain ⟨whole, continued, rfl, rfl⟩ := ihContinuation right.next rfl
      rw [Phrase.Parses, Parser.continuation]
      have passed := shorter nofun
      have progress := Nat.lt_of_le_of_lt whole.no_longer right.shorter
      refine ⟨⟨whole.value, whole.next, by omega⟩,
        bind_ok (lookahead_eq_ok_iff.2 pops) ?_, rfl, rfl⟩
      simp only [joins]
      exact (if_neg (Int.not_le.2 binds)).trans
        (bind_ok expressed (bind_ok (settle_eq_ok_iff.2 builds) (bind_ok continued rfl)))
  | question sequence opens isOpen expression boolean closes isClose ih =>
      rintro cursor rfl token rfl
      obtain ⟨opening, takes, rfl, rfl⟩ := take_of_read? opens isOpen
      obtain ⟨predicate, expressed, rfl, rfl⟩ := ih opening.next rfl
      obtain ⟨closing, takes', rfl, rfl⟩ := take_of_read? closes isClose
      rw [Parser.question]
      have progress := Nat.lt_trans predicate.shorter opening.shorter
      refine ⟨⟨_, closing.next, Nat.lt_trans closing.shorter progress⟩, ?_, rfl, rfl⟩
      simp only [sequence]
      refine bind_ok takes (bind_ok expressed ?_)
      simp only [boolean]
      exact bind_ok takes' rfl

end Parser

/-! ## Queries -/

section Queries

variable {ρ : Type} {now : DateTime} {type : ValueType ρ} {source : String} {whole : Expr ρ}

theorem Parser.query_eq_ok_iff {scope : Scope ρ} (cursor : Cursor) :
    (∃ read, query now scope cursor = .ok read ∧ read.value = whole) ↔
      ∃ rest, Reads now (.expression scope lowestPrecedence whole) cursor.rest rest ∧
        Word.AtEnd rest ∧ whole.type.isBoolean = true := by
  constructor
  · rintro ⟨read, returns, rfl⟩
    obtain ⟨whole, expressed, returns⟩ := bind_eq_ok_iff.1 returns
    obtain ⟨required, requires, returns⟩ := bind_eq_ok_iff.1 returns
    have last := required.2
    have ends := Cursor.read?_of_require requires
    simp only at returns
    split at returns
    · cases returns
    · next boolean =>
        cases returns
        exact ⟨whole.next.rest, expression_sound expressed, ⟨_, _, ends, last⟩,
          by simpa using boolean⟩
  · rintro ⟨rest, derivation, ⟨word, after, ends, last⟩, boolean⟩
    obtain ⟨read, expressed, rfl, rfl⟩ := parses_of_reads derivation cursor rfl
    obtain ⟨required, requires, rfl, rfl⟩ := Cursor.require_of_read? ends last
    have progress := Nat.le_trans required.1.no_longer (Nat.le_of_lt read.shorter)
    refine ⟨⟨read.value, required.1.next, progress⟩, ?_, rfl⟩
    rw [query]
    refine bind_ok expressed (bind_ok requires ?_)
    simp only [boolean]
    rfl

/-- A query is accepted exactly if it is a boolean expression up to the end of the text. -/
theorem parse_eq_ok_iff :
    parse now type source = .ok whole ↔
      ∃ rest, Reads now (.expression ⟨type, []⟩ lowestPrecedence whole) source.toList rest ∧
        Word.AtEnd rest ∧ whole.type.isBoolean = true := by
  refine Iff.trans ?_ (Parser.query_eq_ok_iff (Cursor.start source))
  unfold parse Parser.nextQuery Parser.start Parser.scope
  cases Parser.query now ⟨type, []⟩ (Cursor.start source) with
  | error stuck => simp [Parser.step, Except.map]
  | ok read => simp [Parser.step, Except.map]

end Queries

end RecordQuery
