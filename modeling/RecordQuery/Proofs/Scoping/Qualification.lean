import RecordQuery.Json.Basic
import RecordQuery.Proofs.Documents.Naming
import RecordQuery.Proofs.Scoping.Tail
import RecordQuery.Proofs.Tokens.Insertion

/-!
# Names behind a `$`

A name alone is a member of the innermost input, and so is the name behind `$.`.  The parser comes
to the two in different ways: a name is a primary expression, while `$` is one of its own, and the
member is read off it.

Two texts are variants of each other if they have the same words up to some place, where one of them
goes on with a name and the other one with `$.` and that name (`Word.Variant`).  What stands in a
text stands in its variants, with the same tree and whatever is around it (`Reads.stays`).  The
relation is symmetric, so one induction shows both directions.  `parse_qualify` states this for
queries.
-/

set_option autoImplicit false

namespace RecordQuery

open Word (read? AtEnd)

/-! ## Texts that differ in one name -/

namespace Word

/-- A name stands at the front of the first text, and `$.` with the name at the front of the second
one.  It is not the name of a function that is called. -/
inductive Qualified : List Char → List Char → Prop
  | intro {text text' after afterRun afterDot : List Char} {name : Word}
      (named : read? text = some (name, after)) (isName : name.kind = .identifier)
      (run : read? text' = some (⟨.input, "$", none⟩, afterRun))
      (point : read? afterRun = some (⟨.mark .dot, ".", none⟩, afterDot))
      (named' : read? afterDot = some (name, after))
      (uncalled : ∀ next behind, read? after = some (next, behind) →
        next.kind ≠ .mark .parenthesisOpen) : Qualified text text'

/-- Two texts have the same words, except for a name that may stand behind `$.` in one of them.  It
is not the name of a member. -/
inductive Variant : List Char → List Char → Prop
  | same {text : List Char} : Variant text text
  | word {text text' after after' : List Char} {word : Word}
      (reads : read? text = some (word, after)) (reads' : read? text' = some (word, after'))
      (real : word.kind ≠ .endOfInput)
      (member : word.kind = .mark .dot → ∃ next left left',
        read? after = some (next, left) ∧ read? after' = some (next, left'))
      (more : Variant after after') : Variant text text'
  | qualified {text text' : List Char} (qualified : Qualified text text') : Variant text text'
  | bare {text text' : List Char} (qualified : Qualified text' text) : Variant text text'

namespace Variant

variable {text text' after rest : List Char} {word : Word}

theorem symm (variant : Variant text text') : Variant text' text := by
  induction variant with
  | same => exact .same
  | word reads reads' real member _ ih =>
      refine .word reads' reads real (fun isDot => ?_) ih
      obtain ⟨next, left, left', first, second⟩ := member isDot
      exact ⟨next, left', left, second, first⟩
  | qualified qualified => exact .bare qualified
  | bare qualified => exact .qualified qualified

/-- The first words are the same, or they are a name and the `$` before it. -/
theorem first (variant : Variant text text') (reads : read? text = some (word, after)) :
    (∃ after', read? text' = some (word, after') ∧ Variant after after') ∨
      Qualified text text' ∨ Qualified text' text := by
  cases variant with
  | same => exact .inl ⟨after, reads, .same⟩
  | word found found' _ _ more =>
      cases reads.symm.trans found
      exact .inl ⟨_, found', more⟩
  | qualified qualified => exact .inr (.inl qualified)
  | bare qualified => exact .inr (.inr qualified)

/-- Other words than names and runs of `$` are the same. -/
theorem kept {kind : TokenKind} (variant : Variant text text')
    (reads : read? text = some (word, after)) (same : word.kind = kind)
    (other : kind ≠ .identifier ∧ kind ≠ .input) :
    ∃ after', read? text' = some (word, after') ∧ Variant after after' := by
  rcases variant.first reads with kept | ⟨named, isName⟩ | ⟨_, _, run⟩
  · exact kept
  · cases reads.symm.trans named
    exact absurd (same.symm.trans isName) other.1
  · cases reads.symm.trans run
    exact absurd same.symm other.2

theorem mark {mark : Mark} (variant : Variant text text')
    (reads : read? text = some (word, after)) (same : word.kind = .mark mark) :
    ∃ after', read? text' = some (word, after') ∧ Variant after after' :=
  variant.kept reads same ⟨nofun, nofun⟩

/-- The next word is of no kind that it was not of before, but for names and runs of `$`. -/
theorem next (variant : Variant text text') (reads : read? text = some (word, after)) :
    ∃ word' after', read? text' = some (word', after') ∧
      ∀ kind, word'.kind = kind → kind ≠ .identifier ∧ kind ≠ .input → word.kind = kind := by
  rcases variant.first reads with ⟨after', reads', _⟩ | ⟨_, _, run⟩ | ⟨named, isName⟩
  · exact ⟨word, after', reads', fun _ same _ => same⟩
  · exact ⟨_, _, run, fun _ same other => absurd same.symm other.2⟩
  · exact ⟨_, _, named, fun _ same other => absurd (same.symm.trans isName) other.1⟩

theorem next_ne {mark : Mark} (variant : Variant text text')
    (reads : read? text = some (word, after)) (other : word.kind ≠ .mark mark) :
    ∃ word' after', read? text' = some (word', after') ∧ word'.kind ≠ .mark mark := by
  obtain ⟨word', after', reads', same⟩ := variant.next reads
  exact ⟨word', after', reads', fun isMark => other (same _ isMark ⟨nofun, nofun⟩)⟩

/-- Texts that begin with the same word are variants behind it too. -/
theorem behind {after' : List Char} (variant : Variant text text')
    (reads : read? text = some (word, after)) (reads' : read? text' = some (word, after')) :
    Variant after after' := by
  rcases variant.first reads with ⟨_, found, more⟩ | ⟨named, isName, run⟩ | ⟨named, isName, run⟩
  · cases reads'.symm.trans found
    exact more
  · cases reads.symm.trans named
    cases reads'.symm.trans run
    cases isName
  · cases reads'.symm.trans named
    cases reads.symm.trans run
    cases isName

/-- What stands behind a dot is the same. -/
theorem member {dot : Word} {afterDot afterName : List Char} {name : Word}
    (variant : Variant text text') (point : read? text = some (dot, afterDot))
    (isDot : dot.kind = .mark .dot) (named : read? afterDot = some (name, afterName)) :
    ∃ afterDot' afterName', read? text' = some (dot, afterDot') ∧
      read? afterDot' = some (name, afterName') ∧ Variant afterName afterName' := by
  have notFirst : ∀ {text text' : List Char}, Qualified text text' →
      (∀ after, read? text ≠ some (dot, after)) ∧ ∀ after, read? text' ≠ some (dot, after) := by
    rintro _ _ ⟨found, isName, run⟩
    refine ⟨fun _ reads => ?_, fun _ reads => ?_⟩
    · cases reads.symm.trans found
      cases isDot.symm.trans isName
    · cases reads.symm.trans run
      cases isDot
  cases variant with
  | same => exact ⟨afterDot, afterName, point, named, .same⟩
  | word found found' _ member more =>
      cases point.symm.trans found
      obtain ⟨_, _, _, first, second⟩ := member isDot
      cases named.symm.trans first
      exact ⟨_, _, found', second, more.behind first second⟩
  | qualified qualified => exact absurd point ((notFirst qualified).1 _)
  | bare qualified => exact absurd point ((notFirst qualified).2 _)

theorem atEnd (variant : Variant text text') (ends : AtEnd text) : AtEnd text' := by
  obtain ⟨last, after, reads, isLast⟩ := ends
  obtain ⟨after', reads', _⟩ := variant.kept reads isLast ⟨nofun, nofun⟩
  exact ⟨last, after', reads', isLast⟩

/-- Texts with the same words before a name are variants, unless the last of these is a dot. -/
theorem of_runs {words : List Word} {rest' : List Char} (run : Run text words rest)
    (run' : Run text' words rest') (noDot : ∀ last ∈ words.getLast?, last.kind ≠ .mark .dot)
    (qualified : Qualified rest rest') : Variant text text' := by
  induction run generalizing text' with
  | none =>
      cases run'
      exact .qualified qualified
  | more reads real run ih =>
      cases run' with
      | more reads' _ run' =>
          refine .word reads reads' real (fun isDot => ?_)
            (ih run' (fun last mem => noDot last (List.mem_getLast?_cons mem)) qualified)
          cases run with
          | none => exact absurd isDot (noDot _ rfl)
          | more next _ _ =>
              cases run' with
              | more next' _ _ => exact ⟨_, _, _, next, next'⟩

end Variant

end Word

open Word (Qualified Variant)

/-! ## Expressions in variants -/

variable {ρ : Type} {now : DateTime}

namespace Reads

variable {scope : Scope ρ} {first left : Expr ρ} {text text' afterFirst afterLeft : List Char}

/-- A name with its members is the `$` with the name as its first member. -/
theorem qualify (primary : Reads now (.primary scope first) text afterFirst)
    (suffixes : Reads now (.suffixes first left) afterFirst afterLeft)
    (qualified : Qualified text text') :
    ∃ first' afterFirst', Reads now (.primary scope first') text' afterFirst' ∧
      Reads now (.suffixes first' left) afterFirst' afterLeft := by
  obtain ⟨named, isName, run, point, named', uncalled⟩ := qualified
  cases primary with
  | name found _ _ _ resolves =>
      cases named.symm.trans found
      exact ⟨scope.input, _, .input run rfl rfl,
        .suffix point rfl named' isName resolves suffixes⟩
  | call found _ opens isOpen =>
      cases named.symm.trans found
      exact absurd isOpen (uncalled _ _ opens)
  | now found other | input found other | literal found other | group found other
  | unary found other =>
      cases named.symm.trans found
      cases isName.symm.trans other

/-- A `$` with its members is the first of these alone. -/
theorem unqualify (primary : Reads now (.primary scope first) text afterFirst)
    (suffixes : Reads now (.suffixes first left) afterFirst afterLeft)
    (qualified : Qualified text' text) :
    ∃ first' afterFirst', Reads now (.primary scope first') text' afterFirst' ∧
      Reads now (.suffixes first' left) afterFirst' afterLeft := by
  obtain ⟨named, isName, run, point, named', uncalled⟩ := qualified
  cases primary with
  | input found _ resolves =>
      cases run.symm.trans found
      obtain rfl : scope.input = first := Except.ok.inj resolves
      cases suffixes with
      | noSuffix next other =>
          cases point.symm.trans next
          exact absurd rfl other
      | suffix dotted _ found _ resolves more =>
          cases point.symm.trans dotted
          cases named'.symm.trans found
          obtain ⟨next, behind, follows⟩ := more.exists_next
          exact ⟨_, _, .name named isName follows (uncalled _ _ follows) resolves, more⟩
  | call found other | name found other | now found other | literal found other
  | group found other | unary found other =>
      cases run.symm.trans found
      cases other

end Reads

/-- A phrase stands in every variant of its text too.  A primary expression does where the variant
begins with the same word. -/
def Phrase.Stays (now : DateTime) (text rest : List Char) : Phrase ρ → Prop
  | .primary scope whole => ∀ {word : Word} {text' after after' : List Char},
      read? text = some (word, after) → read? text' = some (word, after') →
      Variant after after' →
      ∃ rest', Reads now (.primary scope whole) text' rest' ∧ Variant rest rest'
  | phrase => ∀ {text' : List Char}, Variant text text' →
      ∃ rest', Reads now phrase text' rest' ∧ Variant rest rest'

theorem Reads.stays {phrase : Phrase ρ} {text rest : List Char}
    (derivation : Reads now phrase text rest) : phrase.Stays now text rest := by
  induction derivation with
  | noSuffix next other =>
      intro text' variant
      obtain ⟨_, _, next', other'⟩ := variant.next_ne next other
      exact ⟨text', .noSuffix next' other', variant⟩
  | suffix point isDot named isName resolves _ ih =>
      intro text' variant
      obtain ⟨_, _, point', named', variant⟩ := variant.member point isDot named
      obtain ⟨rest', more', variant⟩ := ih variant
      exact ⟨rest', .suffix point' isDot named' isName resolves more', variant⟩
  | expression primary suffixes continuation ihPrimary ihSuffixes ihContinuation =>
      intro text' variant
      obtain ⟨word, after, reads⟩ := primary.exists_first
      rcases variant.first reads with ⟨after', reads', variant⟩ | qualified | qualified
      · obtain ⟨_, primary', variant⟩ := ihPrimary reads reads' variant
        obtain ⟨_, suffixes', variant⟩ := ihSuffixes variant
        obtain ⟨rest', continuation', variant⟩ := ihContinuation variant
        exact ⟨rest', .expression primary' suffixes' continuation', variant⟩
      -- Here the words differ, and behind the name the texts are the same.
      · obtain ⟨_, _, primary', suffixes'⟩ := primary.qualify suffixes qualified
        exact ⟨_, .expression primary' suffixes' continuation, .same⟩
      · obtain ⟨_, _, primary', suffixes'⟩ := primary.unqualify suffixes qualified
        exact ⟨_, .expression primary' suffixes' continuation, .same⟩
  | call named isName opens isOpen _ builds ih =>
      intro word text' after after' reads reads' variant
      cases reads.symm.trans named
      obtain ⟨_, opens', _⟩ := variant.mark opens isOpen
      obtain ⟨rest', arguments', variant⟩ := ih variant
      exact ⟨rest', .call reads' isName opens' isOpen arguments' builds, variant⟩
  | name named isName follows other resolves =>
      intro word text' after after' reads reads' variant
      cases reads.symm.trans named
      obtain ⟨_, _, follows', other'⟩ := variant.next_ne follows other
      exact ⟨after', .name reads' isName follows' other' resolves, variant⟩
  | now found isNow =>
      intro word text' after after' reads reads' variant
      cases reads.symm.trans found
      exact ⟨after', .now reads' isNow, variant⟩
  | input found isRun resolves =>
      intro word text' after after' reads reads' variant
      cases reads.symm.trans found
      exact ⟨after', .input reads' isRun resolves, variant⟩
  | literal found isLiteral carries =>
      intro word text' after after' reads reads' variant
      cases reads.symm.trans found
      exact ⟨after', .literal reads' isLiteral carries, variant⟩
  | group opens isOpen _ closes isClose ih =>
      intro word text' after after' reads reads' variant
      cases reads.symm.trans opens
      obtain ⟨_, expression', variant⟩ := ih variant
      obtain ⟨rest', closes', variant⟩ := variant.mark closes isClose
      exact ⟨rest', .group reads' isOpen expression' closes' isClose, variant⟩
  | unary found isMark prefixes _ builds ih =>
      intro word text' after after' reads reads' variant
      cases reads.symm.trans found
      obtain ⟨rest', expression', variant⟩ := ih variant
      exact ⟨rest', .unary reads' isMark prefixes expression' builds, variant⟩
  | noArguments opens isOpen closes isClose =>
      intro text' variant
      obtain ⟨_, opens', variant⟩ := variant.mark opens isOpen
      obtain ⟨rest', closes', variant⟩ := variant.mark closes isClose
      exact ⟨rest', .noArguments opens' isOpen closes' isClose, variant⟩
  | arguments opens isOpen follows other _ closes isClose ih =>
      intro text' variant
      obtain ⟨_, opens', variant⟩ := variant.mark opens isOpen
      obtain ⟨_, _, follows', other'⟩ := variant.next_ne follows other
      obtain ⟨_, listed', variant⟩ := ih variant
      obtain ⟨rest', closes', variant⟩ := variant.mark closes isClose
      exact ⟨rest', .arguments opens' isOpen follows' other' listed' closes' isClose, variant⟩
  | last _ follows other ih =>
      intro text' variant
      obtain ⟨rest', expression', variant⟩ := ih variant
      obtain ⟨_, _, follows', other'⟩ := variant.next_ne follows other
      exact ⟨rest', .last expression' follows' other', variant⟩
  | cons _ separates isComma _ ihExpression ihListed =>
      intro text' variant
      obtain ⟨_, expression', variant⟩ := ihExpression variant
      obtain ⟨_, separates', variant⟩ := variant.mark separates isComma
      obtain ⟨rest', listed', variant⟩ := ihListed variant
      exact ⟨rest', .cons expression' separates' isComma listed', variant⟩
  | stop follows stops =>
      intro text' variant
      obtain ⟨word', _, follows', same⟩ := variant.next follows
      refine ⟨text', .stop follows' ⟨fun isKeyword => ?_, fun mark entry isMark => ?_⟩, variant⟩
      · exact stops.1 (same _ isKeyword ⟨nofun, nofun⟩)
      · exact stops.2 mark entry (same _ isMark ⟨nofun, nofun⟩)
  | asked reads isKeyword _ _ ihQuestion ihContinuation =>
      intro text' variant
      obtain ⟨_, reads', variant⟩ := variant.kept reads isKeyword ⟨nofun, nofun⟩
      obtain ⟨_, question', variant⟩ := ihQuestion variant
      obtain ⟨rest', continuation', variant⟩ := ihContinuation variant
      exact ⟨rest', .asked reads' isKeyword question' continuation', variant⟩
  | operator reads isMark joins binds _ builds _ ihExpression ihContinuation =>
      intro text' variant
      obtain ⟨_, reads', variant⟩ := variant.mark reads isMark
      obtain ⟨_, expression', variant⟩ := ihExpression variant
      obtain ⟨rest', continuation', variant⟩ := ihContinuation variant
      exact ⟨rest', .operator reads' isMark joins binds expression' builds continuation', variant⟩
  | question sequence opens isOpen _ boolean closes isClose ih =>
      intro text' variant
      obtain ⟨_, opens', variant⟩ := variant.mark opens isOpen
      obtain ⟨_, expression', variant⟩ := ih variant
      obtain ⟨rest', closes', variant⟩ := variant.mark closes isClose
      exact ⟨rest', .question sequence opens' isOpen expression' boolean closes' isClose, variant⟩

/-- A query compiles to the tree of its variants. -/
theorem parse_of_variant {type : ValueType ρ} {source source' : String} {whole : Expr ρ}
    (variant : Variant source.toList source'.toList) (parses : parse now type source = .ok whole) :
    parse now type source' = .ok whole := by
  obtain ⟨rest, derivation, ends, boolean⟩ := parse_eq_ok_iff.1 parses
  obtain ⟨rest', derivation', variant⟩ := derivation.stays variant
  exact parse_eq_ok_iff.2 ⟨rest', derivation', variant.atEnd ends, boolean⟩

/-! ## Texts with one name qualified -/

/-- The text with `$.` in front of what stands from byte `start` on. -/
def Text.qualify (source : String) (start : Nat) : String :=
  let (before, rest) := splitAtByte start source.toList
  String.ofList (before ++ '$' :: '.' :: rest)

theorem Text.toList_qualify {source : String} {before rest : List Char}
    (split : source.toList = before ++ rest) :
    (qualify source (byteLength before)).toList = before ++ '$' :: '.' :: rest := by
  simp only [qualify, split, splitAtByte_append, String.toList_ofList]

theorem Word.read?_dollar {blanks : List Char} (allBlank : ∀ b ∈ blanks, Text.isBlank b = true)
    (more : List Char) (other : more.head? ≠ some '$') :
    read? (blanks ++ '$' :: more) = some (⟨.input, "$", none⟩, more) := by
  have none : more.takeWhile (· = '$') = [] := by
    cases more with
    | nil => rfl
    | cons c more => exact List.takeWhile_cons_of_neg (by simpa using other)
  have lexed : Lexeme.read '$' more = .ok (.plain .input 0) := by
    rw [Lexeme.read, if_neg (by decide), if_pos rfl, none]
    rfl
  exact (Word.read?_eq_some_iff (by rintro ⟨⟩)).2
    ⟨blanks, '$', [], .plain .input 0, rfl, allBlank, by decide, lexed, rfl, rfl⟩

/-- A text and the text with `$.` in front of one of its names are variants, unless the name is that
of a member or of a function, or a run of `$` stands before it. -/
theorem Cursor.Pops.variant {source : String} {before : List Token} {here : Cursor}
    {popped : Popped here} (run : (Cursor.start source).Pops before here)
    (pops : here.pop = .ok popped) (isName : popped.token.kind = .identifier)
    (alone : ∀ last ∈ before.getLast?, last.kind ≠ .mark .dot ∧ last.kind ≠ .input)
    (uncalled : ∀ next behind, read? popped.next.rest = some (next, behind) →
      next.kind ≠ .mark .parenthesisOpen) :
    Variant source.toList (Text.qualify source popped.token.start).toList := by
  obtain ⟨front, gap, split, position, allBlank, cut⟩ := run.cut_before
  have start := (passes_pop pops).1.trans position
  have named := read?_of_pop pops
  have trimmed : read? here.skipBlanks.rest = some (popped.token.word, popped.next.rest) := by
    rw [rest_skipBlanks]
    exact (Word.read?_congr (List.dropWhile_idempotent _ _)).trans named
  have dot := Word.read?_dot (Word.digitRun_of_identifier trimmed isName)
  have dollar := Word.read?_dollar allBlank ('.' :: here.skipBlanks.rest) (by simp)
  rw [start, Text.toList_qualify split]
  refine .of_runs run.run (cut ('$' :: '.' :: here.skipBlanks.rest) (.intro (by decide)) ?_) ?_
    (.intro named isName dollar dot trimmed uncalled)
  · exact fun last mem isRun => absurd isRun (alone last mem).2
  · intro last mem
    rw [List.getLast?_map, Option.mem_map] at mem
    obtain ⟨token, isLast, rfl⟩ := mem
    exact (alone token isLast).1

/-- A name alone means `$.name`, at every depth.  Take a name in a text that is not called and
stands neither behind a dot, as the name of a member, nor behind a run of `$`, where no expression
begins.  The query with `$.` in front of the name compiles just if the query does, and then to the
same tree. -/
theorem parse_qualify {ρ : Type} {now : DateTime} {type : ValueType ρ} {source : String}
    {before : List Token} {here : Cursor} {popped : Cursor.Popped here}
    (run : (Cursor.start source).Pops before here) (pops : here.pop = .ok popped)
    (isName : popped.token.kind = .identifier)
    (alone : ∀ last ∈ before.getLast?, last.kind ≠ .mark .dot ∧ last.kind ≠ .input)
    (uncalled : ∀ next, popped.next.peek = .ok next → next.kind ≠ .mark .parenthesisOpen)
    (whole : Expr ρ) :
    parse now type (Text.qualify source popped.token.start) = .ok whole ↔
      parse now type source = .ok whole := by
  have variant := run.variant pops isName alone fun next behind reads => by
    obtain ⟨token, peeks, rfl⟩ := Cursor.peek_of_read? reads
    exact uncalled token peeks
  exact ⟨parse_of_variant variant.symm, parse_of_variant variant⟩

theorem parse_qualify_two_blocks :
    ∃ (now : DateTime) (type : ValueType Json) (whole : Expr Json) (before : List Token)
      (here : Cursor) (popped : Cursor.Popped here),
      type = .sequence (.sequence (.record "Line" [Document.member "n" .integer])) ∧
      (Cursor.start "$ any \x7b $ any \x7b n > 1 \x7d \x7d").Pops before here ∧
      here.pop = .ok popped ∧ popped.token.kind = .identifier ∧
      (∀ last ∈ before.getLast?, last.kind ≠ .mark .dot ∧ last.kind ≠ .input) ∧
      (∀ next, popped.next.peek = .ok next → next.kind ≠ .mark .parenthesisOpen) ∧
      parse now type "$ any \x7b $ any \x7b n > 1 \x7d \x7d" = .ok whole ∧
      parse now type "$ any \x7b $ any \x7b $.n > 1 \x7d \x7d" = .ok whole := by
  let token (start : Nat) (kind : TokenKind) (lexeme : String) : Token :=
    ⟨start, kind, lexeme, none⟩
  let before : List Token := [token 0 .input "$", token 2 .quantifier "any",
    token 6 (.mark .blockOpen) "\x7b", token 8 .input "$", token 10 .quantifier "any",
    token 14 (.mark .blockOpen) "\x7b"]
  let behind : List Token := [token 18 (.mark .greater) ">",
    ⟨20, .literal, "1", some (.integer 1)⟩, token 22 (.mark .blockClose) "\x7d",
    token 24 (.mark .blockClose) "\x7d"]
  let line : ValueType Json := .record "Line" [Document.member "n" .integer]
  let whole : Expr Json := .nested .any 1 (.input 0 (.sequence (.sequence line)))
    (.nested .any 2 (.input 1 (.sequence line))
      (.binary .greater .boolean (.member (.input 2 line) (Document.member "n" .integer))
        (.literal (.integer 1))))
  have parses : parse ⟨⟨0, by decide⟩, .midnight⟩ (.sequence (.sequence line))
      "$ any \x7b $ any \x7b n > 1 \x7d \x7d" = .ok whole := by cbv
  have cuts : tokenize "$ any \x7b $ any \x7b n > 1 \x7d \x7d" =
      .ok ((before ++ token 16 .identifier "n" :: behind) ++ [token 25 .endOfInput ""]) := by cbv
  obtain ⟨tokens, last, ending, run, _, _, split⟩ :=
    Cursor.tokens_eq_ok (mapError_eq_ok_iff.1 cuts)
  obtain ⟨rfl, _⟩ := List.append_inj' split rfl
  obtain ⟨here, first, run⟩ := run.of_append
  obtain ⟨popped, pops, same, run⟩ := run.of_cons
  obtain ⟨popped', pops', same', _⟩ := run.of_cons
  have alone : ∀ last ∈ before.getLast?, last.kind ≠ .mark .dot ∧ last.kind ≠ .input := by
    rintro _ ⟨⟩
    exact ⟨by rintro ⟨⟩, by rintro ⟨⟩⟩
  have uncalled : ∀ next, popped.next.peek = .ok next → next.kind ≠ .mark .parenthesisOpen := by
    intro next peeks
    obtain ⟨found, looks, rfl⟩ := map_eq_ok_iff.1 peeks
    cases (Cursor.lookahead_eq_ok_iff.1 looks).symm.trans pops'
    rw [same']
    rintro ⟨⟩
  have isName : popped.token.kind = .identifier := congrArg Token.kind same
  have again := (parse_qualify first pops isName alone uncalled whole).2 parses
  rw [show popped.token.start = 16 from congrArg Token.start same] at again
  exact ⟨_, _, whole, before, here, popped, rfl, first, pops, isName, alone, uncalled, parses,
    again⟩

end RecordQuery
