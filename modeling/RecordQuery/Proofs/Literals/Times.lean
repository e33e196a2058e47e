import RecordQuery.Proofs.Grammar.Agreement
import RecordQuery.Proofs.Literals.Folding
import RecordQuery.Proofs.Time.SpanForms
import RecordQuery.Proofs.Tokens.Respacing

/-!
# Times as literals and as texts

A time in a query is a literal, or it is the text that a function is called with.  A literal is read
from a longer text and may stop early, before a colon without minutes or a blank without a time of
day; a function reads a text up to its end.  They agree all the same.  The lexeme of a literal is
the text of the notation that was read (`Literal.Wrote`), and a notation is read back from its own
text.
-/

set_option autoImplicit false

namespace RecordQuery

open Text (AllDigits Tight)

/-! ## Notations as whole texts -/

theorem Text.AllDigits.tight {digits : List Char} (all : AllDigits digits) : Tight digits :=
  tight_of_visible fun c mem => not_isBlank_of_isDigit (all c mem)

namespace PointNotation

variable {point : PointNotation} {p : Char → Prop}

/-- The text of a point in time is that of its date and what follows it. -/
theorem chars_eq (point : PointNotation) :
    point.chars = point.year ++ '-' :: (point.month ++ '-' :: (point.day ++
      point.clock.elim [] (fun clock => ' ' :: clock.chars))) := by
  simpa only [List.append_nil] using point.chars_append []

/-- The text of a point in time has digits, dashes, a blank, colons and points. -/
theorem WellWritten.forall_chars (written : point.WellWritten)
    (digit : ∀ c, c.isDigit = true → p c) (dash : p '-') (blank : p ' ') (colon : p ':')
    (mark : p '.') : ∀ c ∈ point.chars, p c := by
  have ofClock : ∀ c ∈ point.clock.elim [] (fun clock => ' ' :: clock.chars), p c := by
    cases isClock : point.clock with
    | none => nofun
    | some clock =>
        have clockWritten := (written.clock clock isClock).1
        rintro c (_ | ⟨_, mem⟩)
        · exact blank
        · exact clockWritten.forall_chars digit colon mark c mem
  intro c mem
  simp only [chars_eq, List.mem_append, List.mem_cons] at mem
  rcases mem with mem | rfl | mem | rfl | mem | mem
  · exact digit c (written.year c mem)
  · exact dash
  · exact digit c (written.month c mem)
  · exact dash
  · exact digit c (written.day c mem)
  · exact ofClock c mem

/-- The blank in a point in time has a date before it and a time of day behind it. -/
theorem WellWritten.tight_chars (written : point.WellWritten) : Tight point.chars := by
  obtain ⟨fourDigits, _, twoDigits⟩ := written.lengths
  have someYear : point.year ≠ [] := List.ne_nil_of_length_pos (by omega)
  have someDay : point.day ≠ [] := List.ne_nil_of_length_pos (by omega)
  rw [chars_eq]
  cases isClock : point.clock with
  | none =>
      have around := written.year.tight.around someYear ('-' :: (point.month ++ ['-']))
        written.day.tight someDay
      simpa using around
  | some clock =>
      have around := written.year.tight.around someYear
        ('-' :: (point.month ++ '-' :: (point.day ++ [' '])))
        (written.clock clock isClock).1.tight_chars (List.ne_nil_of_mem clock.colon_mem_chars)
      simpa using around

theorem WellWritten.read?_chars (written : point.WellWritten) :
    read? point.chars = some (point, []) := by
  have reads : read? (point.chars ++ []) = some (point, []) := read?_chars_append written .nil
  rwa [List.append_nil] at reads

end PointNotation

/-- The text of a span is read as what its digits write. -/
theorem TimeSpan.ofText_chars {span : SpanNotation} {value : TimeSpan} {text : String}
    (written : span.WellWritten) (values : span.value = .ok value)
    (same : text.toList = span.chars) : TimeSpan.ofText text = .ok value := by
  have unsigned : ofSigned? span.chars = ofUnsigned? span.chars := by
    unfold ofSigned?
    split
    · next signed =>
      have plain := written.forall_chars (p := (· ≠ '-'))
        (fun c digit sign => by cases sign; cases digit) (by decide) (by decide)
      exact absurd rfl (plain '-' (signed ▸ List.mem_cons_self))
    · rfl
  rw [ofText_eq, same, written.tight_chars.trim, unsigned, ofUnsigned?_chars written, values]
  rfl

theorem DateTime.ofNotation?_chars {point : PointNotation} (written : point.WellWritten) :
    ofNotation? point.chars = point.value.toOption := by
  rw [ofNotation?, written.read?_chars]

/-- The text of a point in time is read as what its digits write. -/
theorem DateTime.ofText_chars {point : PointNotation} {value : DateTime} {text : String}
    (written : point.WellWritten) (values : point.value = .ok value)
    (same : text.toList = point.chars) : DateTime.ofText text = .ok value := by
  have reads : ofNotation? point.chars = some value := by
    rw [ofNotation?_chars written, values]
    rfl
  simp only [ofText, same, written.tight_chars.trim, reads]

/-! ## Lexemes of times -/

namespace Literal

/-- The function that reads texts like that of a literal. -/
def reader? : Literal → Option Function
  | .timeSpan _ => some .timeSpan
  | .dateTime _ => some .dateTime
  | _ => none

/-- A text is that of a notation whose digits write the value of a literal. -/
inductive Wrote : List Char → Literal → Prop
  | span {span : SpanNotation} {value : TimeSpan} (written : span.WellWritten)
      (values : span.value = .ok value) : Wrote span.chars (.timeSpan value)
  | point {point : PointNotation} {value : DateTime} (written : point.WellWritten)
      (values : point.value = .ok value) : Wrote point.chars (.dateTime value)

variable {text : List Char} {literal : Literal} {function : Function}

theorem Wrote.unquoted (wrote : Wrote text literal) : '"' ∉ text := by
  have digit : ∀ c : Char, c.isDigit = true → c ≠ '"' := by
    rintro c digit rfl
    cases digit
  intro quoted
  cases wrote with
  | span written =>
      exact written.forall_chars digit (by decide) (by decide) _ quoted rfl
  | point written =>
      exact written.forall_chars digit (by decide) (by decide) (by decide) (by decide) _ quoted rfl

/-- A time is read from its own text by the function for texts like it. -/
theorem Wrote.apply {ρ : Type} (wrote : Wrote text literal)
    (reads : literal.reader? = some function) {lexeme : String} (same : lexeme.toList = text) :
    function.apply [.string lexeme] = .ok (literal.toValue : Value ρ) := by
  cases wrote with
  | span written values =>
      cases reads
      have read := TimeSpan.ofText_chars written values same
      simp [Function.apply, Function.textAt, Value.string?, read]
      rfl
  | point written values =>
      cases reads
      have read := DateTime.ofText_chars written values same
      simp [Function.apply, Function.textAt, Value.string?, read]
      rfl

end Literal

namespace Lexeme

variable {c : Char} {text : List Char} {lexeme : Lexeme} {literal : Literal}

/-- A literal of a time has the length and the value that it was built with. -/
theorem ofTime_value {τ : Type} {length : Nat} {build : τ → Literal}
    {result : Except NotationFault τ} (reads : ofTime text length build result = .ok lexeme) :
    ∃ value, result = .ok value ∧ lexeme = ofLiteral length (build value) := by
  cases result with
  | error fault => cases reads
  | ok value =>
      cases reads
      exact ⟨value, rfl, rfl⟩

theorem wrote_of_readNumber (reads : readNumber text = .ok lexeme)
    (carries : lexeme.literal? = some literal) (time : literal.reader? ≠ none) :
    lexeme.kind = .literal ∧ literal.Wrote (text.take (lexeme.more + 1)) := by
  have front : ∀ {front rest : List Char} (literal : Literal), 0 < front.length →
      (front ++ rest).take ((ofLiteral front.length literal).more + 1) = front := by
    intro front rest literal positive
    rw [ofLiteral, Nat.sub_add_cancel positive, List.take_left]
  unfold readNumber at reads
  split at reads
  · next span rest found =>
    obtain ⟨value, values, rfl⟩ := ofTime_value reads
    cases carries
    rw [SpanNotation.eq_chars_append found, front _ span.chars_length_pos]
    exact ⟨rfl, .span (SpanNotation.wellWritten_of_read? found).1 values⟩
  split at reads
  · next point rest found =>
    obtain ⟨value, values, rfl⟩ := ofTime_value reads
    cases carries
    rw [PointNotation.eq_chars_append found, front _ point.chars_length_pos]
    exact ⟨rfl, .point (PointNotation.wellWritten_of_read? found) values⟩
  unfold readPlainNumber at reads
  simp only at reads
  split at reads
  · cases reads
    cases carries
    exact absurd rfl time
  split at reads
  · cases reads
    cases carries
    exact absurd rfl time
  · cases reads

/-- A literal that is a time has the text of a notation as its lexeme. -/
theorem wrote_of_read (reads : read c text = .ok lexeme)
    (carries : lexeme.literal? = some literal) (time : literal.reader? ≠ none) :
    lexeme.kind = .literal ∧ literal.Wrote ((c :: text).take (lexeme.more + 1)) := by
  unfold read at reads
  split at reads
  · obtain rfl := Except.ok.inj reads
    rcases ofWord_cases (String.ofList (c :: text.takeWhile continuesWord)) with
      ⟨truth, same⟩ | ⟨kind, _, same⟩
    · rw [same] at carries
      cases carries
      exact absurd rfl time
    · rw [same] at carries
      cases carries
  split at reads
  · cases reads
    cases carries
  split at reads
  · exact wrote_of_readNumber reads carries time
  split at reads
  · cases reads
    cases carries
    exact absurd rfl time
  split at reads
  · obtain ⟨content, after, rfl, _, rfl⟩ := take_readString reads
    cases carries
    exact absurd rfl time
  split at reads
  · cases reads
    cases carries
  · cases reads

end Lexeme

/-- A token that is a time has the text of a notation as its lexeme. -/
theorem Cursor.wrote_of_pop {cursor : Cursor} {popped : Popped cursor} {literal : Literal}
    (pops : cursor.pop = .ok popped) (carries : popped.token.literal? = some literal)
    (time : literal.reader? ≠ none) :
    popped.token.kind = .literal ∧ literal.Wrote popped.token.lexeme.toList := by
  rcases pop_eq_ok pops with ⟨_, ending, _⟩ | ⟨c, text, lexeme, _, reads, word, _⟩
  · rw [ending] at carries
    cases carries
  · rw [word] at carries ⊢
    rw [String.toList_ofList]
    exact Lexeme.wrote_of_read reads carries time

/-! ## Calls with a text -/

namespace Word

/-- A name is read up to a character that is in no word. -/
theorem read?_identifier {name : String} {c d : Char} {more : List Char}
    (split : name.toList = c :: more) (visible : Text.isBlank c = false)
    (starts : Lexeme.startsWord c = true) (continues : more.all Lexeme.continuesWord = true)
    (isName : (Lexeme.ofWord name).kind = .identifier) (ends : Lexeme.continuesWord d = false)
    (tail : List Char) :
    read? (name.toList ++ d :: tail) = some (⟨.identifier, name, none⟩, d :: tail) := by
  have noLiteral : (Lexeme.ofWord name).literal? = none := by
    rcases Lexeme.ofWord_cases name with ⟨truth, same⟩ | ⟨kind, _, same⟩
    · rw [same] at isName
      cases isName
    · rw [same]
      rfl
  have length : (Lexeme.ofWord name).more + 1 = name.toList.length := by
    rw [Lexeme.more_ofWord, split, List.length_cons, Nat.add_sub_cancel]
  have run : (more ++ d :: tail).takeWhile Lexeme.continuesWord = more := by
    rw [List.takeWhile_append_of_pos (List.all_eq_true.1 continues),
      List.takeWhile_cons_of_neg (by simp [ends]), List.append_nil]
  have reads : Lexeme.read c (more ++ d :: tail) = .ok (Lexeme.ofWord name) := by
    rw [Lexeme.read, if_pos starts, run, ← split, String.ofList_toList]
  have left : Text.trimStart (c :: (more ++ d :: tail)) = c :: (more ++ d :: tail) :=
    List.dropWhile_cons_of_neg (by simp [visible])
  have whole : c :: (more ++ d :: tail) = name.toList ++ d :: tail := by
    rw [split, List.cons_append]
  rw [← whole]
  simp only [read?, left, reads, isName, noLiteral, length]
  rw [whole, List.take_left, List.drop_left, String.ofList_toList]

/-- The name of a function before a parenthesis is a word. -/
theorem read?_name (function : Function) (tail : List Char) :
    read? (function.name.toList ++ '(' :: tail) =
      some (⟨.identifier, function.name, none⟩, '(' :: tail) := by
  cases function with
  | dateTime | dateTimeByFormat =>
      have split : "DateTime".toList = 'D' :: "ateTime".toList := rfl
      exact read?_identifier split rfl rfl (by decide) (by decide) rfl tail
  | timeSpan =>
      have split : "TimeSpan".toList = 'T' :: "imeSpan".toList := rfl
      exact read?_identifier split rfl rfl (by decide) (by decide) rfl tail

theorem read?_open (tail : List Char) :
    read? ('(' :: tail) = some (⟨.mark .parenthesisOpen, "(", none⟩, tail) := rfl

theorem read?_close (tail : List Char) :
    read? (')' :: tail) = some (⟨.mark .parenthesisClose, ")", none⟩, tail) := rfl

/-- A text in quotes is a word. -/
theorem read?_quoted {text : List Char} (unquoted : '"' ∉ text) (tail : List Char) :
    ∃ lexeme, read? ('"' :: (text ++ '"' :: tail)) =
      some (⟨.literal, lexeme, some (.string (String.ofList text))⟩, tail) := by
  have left : Text.trimStart ('"' :: (text ++ '"' :: tail)) = '"' :: (text ++ '"' :: tail) := rfl
  have reads : Lexeme.read '"' (text ++ '"' :: tail) = _ :=
    (Lexeme.read_quote _).trans (Lexeme.readString_quoted unquoted tail)
  have behind : ('"' :: (text ++ '"' :: tail)).drop (text.length + 2) = tail := by
    have split : '"' :: (text ++ '"' :: tail) = ('"' :: (text ++ ['"'])) ++ tail := by simp
    rw [split]
    exact List.drop_left' (by simp)
  refine ⟨String.ofList (('"' :: (text ++ '"' :: tail)).take (text.length + 2)), ?_⟩
  simp only [read?, left, reads]
  rw [Lexeme.ofLiteral]
  simp [behind]

end Word

theorem Expr.fold_of_applies {ρ : Type} {function : Function} {text : String} {value : Value ρ}
    {literal : Literal} (applies : function.apply [.string text] = .ok value)
    (time : literalOfTime? value = some literal) :
    fold function [.string text] = .ok (.literal literal : Expr ρ) := by
  simp only [fold, List.map_cons, List.map_nil, Literal.toValue, applies, time]

/-- A call of the function for texts like that of a literal, with such a text, is the literal. -/
theorem Expr.ofCall_wrote {ρ : Type} {text : List Char} {literal : Literal} {function : Function}
    (wrote : literal.Wrote text) (reader : literal.reader? = some function) :
    Expr.ofCall function.name [.literal (.string (String.ofList text))] =
      .ok (.literal literal : Expr ρ) := by
  have applies := wrote.apply (ρ := ρ) reader String.toList_ofList
  have resolves : Function.resolve? function.name 1 = some function := by
    cases wrote <;> cases reader <;> decide
  refine ofCall_eq_ok_iff.2 ⟨function, resolves, ?_, ?_⟩
  · rintro argument (_ | ⟨_, ⟨⟩⟩)
    rfl
  have time : literalOfTime? (literal.toValue : Value ρ) = some literal := by
    cases wrote <;> rfl
  have literals : [.literal (.string (String.ofList text))].mapM (literal? : Expr ρ → _) =
      some [.string (String.ofList text)] := rfl
  rw [callOf_of_literals literals]
  exact fold_of_applies applies time

/-- The call is read as the literal, with what follows it left. -/
theorem Reads.call_wrote {ρ : Type} {now : DateTime} {scope : Scope ρ} {text tail : List Char}
    {literal : Literal} {function : Function} (wrote : literal.Wrote text)
    (reader : literal.reader? = some function) :
    Reads now (.primary scope (.literal literal))
      (function.name.toList ++ '(' :: '"' :: (text ++ '"' :: ')' :: tail)) tail := by
  obtain ⟨lexeme, quoted⟩ := Word.read?_quoted wrote.unquoted (')' :: tail)
  have closes := Word.read?_close tail
  have stops : Word.Stops lowestPrecedence ⟨.mark .parenthesisClose, ")", none⟩ := by
    refine ⟨nofun, ?_⟩
    rintro mark entry ⟨⟩ joins
    cases joins
  have argument : Reads now (.expression scope lowestPrecedence
      (.literal (.string (String.ofList text)))) ('"' :: (text ++ '"' :: ')' :: tail))
      (')' :: tail) :=
    .expression (.literal quoted rfl rfl) (.noSuffix closes nofun) (.stop closes stops)
  exact .call (Word.read?_name function _) rfl (Word.read?_open _) rfl
    (.arguments (Word.read?_open _) rfl quoted nofun (.last argument closes nofun) closes rfl)
    (Expr.ofCall_wrote wrote reader)

/-! ## Literals and calls -/

namespace Cursor

/-- A literal is read as a node with its value.  A call of the function with the lexeme of the
literal in quotes is read as the same node, wherever it stands and whatever follows it. -/
structure ReadsLikeCall (cursor : Cursor) (popped : Popped cursor) (name : String)
    (value : Literal) : Prop where
  literal {ρ : Type} (now : DateTime) (scope : Scope ρ) :
    (Phrase.primary scope (.literal value)).Parses now cursor popped.next.rest
  call {ρ : Type} (now : DateTime) (scope : Scope ρ) (there : Cursor) (tail : List Char)
    (written : there.rest = (name ++ "(\"" ++ popped.token.lexeme ++ "\")").toList ++ tail) :
    (Phrase.primary scope (.literal value)).Parses now there tail

variable {cursor : Cursor} {popped : Popped cursor} {literal : Literal} {function : Function}

theorem readsLikeCall (pops : cursor.pop = .ok popped)
    (carries : popped.token.literal? = some literal) (reader : literal.reader? = some function) :
    cursor.ReadsLikeCall popped function.name literal where
  literal now scope := by
    have isLiteral := (wrote_of_pop pops carries (by simp [reader])).1
    exact Parser.parses_of_reads (.literal (read?_of_pop pops) isLiteral carries) cursor rfl
  call now scope there tail written := by
    have wrote := (wrote_of_pop pops carries (by simp [reader])).2
    refine Parser.parses_of_reads (Reads.call_wrote wrote reader) there ?_
    simpa using written

/-- A literal of a time is what the function for such times gives for its lexeme, whatever stands
behind the literal.  So a call of the function with the lexeme is folded to the same node. -/
theorem time_of_lexeme (pops : cursor.pop = .ok popped) :
    (∀ span, popped.token.literal? = some (.timeSpan span) →
      TimeSpan.ofText popped.token.lexeme = .ok span ∧
        cursor.ReadsLikeCall popped "TimeSpan" (.timeSpan span)) ∧
    (∀ point, popped.token.literal? = some (.dateTime point) →
      DateTime.ofText popped.token.lexeme = .ok point ∧
        cursor.ReadsLikeCall popped "DateTime" (.dateTime point)) := by
  refine ⟨fun span carries => ⟨?_, readsLikeCall pops carries rfl⟩,
    fun point carries => ⟨?_, readsLikeCall pops carries rfl⟩⟩
  · have wrote := (wrote_of_pop pops carries nofun).2
    generalize same : popped.token.lexeme.toList = text at wrote
    cases wrote with
    | span written values => exact TimeSpan.ofText_chars written values same
  · have wrote := (wrote_of_pop pops carries nofun).2
    generalize same : popped.token.lexeme.toList = text at wrote
    cases wrote with
    | point written values => exact DateTime.ofText_chars written values same

/-- The seconds end before a colon with no digit behind it. -/
theorem time_of_lexeme_before_colon :
    ∃ (popped : Popped (start "1.02:03:04:x")) (span : TimeSpan),
      (start "1.02:03:04:x").pop = .ok popped ∧ popped.token.literal? = some (.timeSpan span) ∧
      popped.token.lexeme = "1.02:03:04" ∧ popped.next.rest = [':', 'x'] ∧
      span.nanoseconds = 93784000000000 ∧
      TimeSpan.ofText popped.token.lexeme = .ok span ∧
      (start "1.02:03:04:x").ReadsLikeCall popped "TimeSpan" (.timeSpan span) := by
  have reads : Word.read? (start "1.02:03:04:x").rest =
      some (⟨.literal, "1.02:03:04", some (.timeSpan ⟨93784000000000, by decide⟩)⟩,
        [':', 'x']) := rfl
  obtain ⟨popped, pops, word, rest⟩ := pop_of_read? reads
  have carries : popped.token.literal? = _ := congrArg Word.literal? word
  obtain ⟨value, alike⟩ := (time_of_lexeme pops).1 _ carries
  exact ⟨popped, _, pops, carries, congrArg Word.lexeme word, rest, rfl, value, alike⟩

end Cursor

end RecordQuery
