import RecordQuery.Proofs.Tokens.Respacing

/-!
# What the kind of a token promises

The lexer says of what kind a token is, and the parser relies on two things that it does not say.  A
literal carries the value that it writes, and the word of a question is one that the parser knows
(`Cursor.promised_of_pop`).  For the second one two lists of words have to agree: the lexer looks a
word up in its own list, and the parser finds the quantifier for a word in another one.

Where a text begins with no token, the lexer has a cause of its own, and none of those that the
parser has for what does not happen (`Cause.isFallback`).
-/

set_option autoImplicit false

namespace RecordQuery

/-! ## Words of questions -/

theorem Lexeme.questionWords_eq :
    questionWords = [Quantifier.any, .all, .count].map Quantifier.word := rfl

/-- A word that asks a question is the word of a quantifier, in any letter case. -/
theorem Lexeme.exists_of_asksQuestion {word : String} (asks : asksQuestion word = true) :
    ∃ quantifier : Quantifier, word.toList.map Char.toLower = quantifier.word.toList := by
  rw [asksQuestion, questionWords_eq, List.any_map, List.any_eq_true] at asks
  obtain ⟨quantifier, _, same⟩ := asks
  exact ⟨quantifier, of_decide_eq_true same⟩

/-- No other quantifier is found for the word of a quantifier. -/
theorem Quantifier.ofWord?_of_lower {word : String} {quantifier : Quantifier}
    (same : word.toList.map Char.toLower = quantifier.word.toList) :
    ofWord? word = some quantifier := by
  rw [ofWord?, same]
  cases quantifier <;> rfl

/-! ## Lexemes -/

namespace Lexeme

variable {c : Char} {text : List Char} {lexeme : Lexeme}

/-- A lexeme is a word or a literal, or else it carries no value and asks no question. -/
theorem read_eq_ok (reads : read c text = .ok lexeme) :
    lexeme = ofWord (String.ofList (c :: text.takeWhile continuesWord)) ∨
      (∃ length literal, lexeme = ofLiteral length literal) ∨
      ∃ kind more, kind ≠ .literal ∧ kind ≠ .quantifier ∧ lexeme = plain kind more := by
  unfold read at reads
  split at reads
  · exact .inl (Except.ok.inj reads).symm
  split at reads
  · cases reads
    exact .inr (.inr ⟨.input, _, nofun, nofun, rfl⟩)
  split at reads
  · obtain ⟨length, literal, same, _⟩ := readNumber_cases reads
    exact .inr (.inl ⟨length, literal, same⟩)
  split at reads
  · cases reads
    exact .inr (.inl ⟨_, _, rfl⟩)
  split at reads
  · obtain ⟨_, _, _, _, same⟩ := take_readString reads
    exact .inr (.inl ⟨_, _, same⟩)
  split at reads
  · next mark _ =>
    cases reads
    exact .inr (.inr ⟨.mark mark, _, nofun, nofun, rfl⟩)
  · cases reads

theorem literal_of_read (reads : read c text = .ok lexeme) (isLiteral : lexeme.kind = .literal) :
    ∃ value, lexeme.literal? = some value := by
  rcases read_eq_ok reads with rfl | ⟨length, literal, rfl⟩ | ⟨_, _, other, _, rfl⟩
  · rcases ofWord_cases (String.ofList (c :: text.takeWhile continuesWord)) with
      ⟨truth, same⟩ | ⟨kind, ofWords, same⟩
    · exact ⟨.boolean truth, by rw [same]; rfl⟩
    · rw [same] at isLiteral
      obtain rfl : kind = .literal := isLiteral
      exact absurd ofWords (by decide)
  · exact ⟨literal, rfl⟩
  · exact absurd isLiteral other

theorem asksQuestion_of_ofWord {word : String} (asks : (ofWord word).kind = .quantifier) :
    asksQuestion word = true := by
  unfold ofWord at asks
  simp only at asks
  split at asks
  · cases asks
  split at asks
  · cases asks
  split at asks
  · cases asks
  split at asks
  · assumption
  · cases asks

theorem asksQuestion_of_read (reads : read c text = .ok lexeme)
    (asks : lexeme.kind = .quantifier) :
    asksQuestion (String.ofList ((c :: text).take (lexeme.more + 1))) = true := by
  rcases read_eq_ok reads with rfl | ⟨length, literal, rfl⟩ | ⟨_, _, _, other, rfl⟩
  · rw [more_ofWord, String.toList_ofList, List.length_cons, Nat.add_sub_cancel,
      List.take_succ_cons, take_length_takeWhile]
    exact asksQuestion_of_ofWord asks
  · cases asks
  · exact absurd asks other

end Lexeme

/-! ## Causes -/

/-- The cause of an error that the parser has for what does not happen. -/
def Cause.isFallback : Cause → Bool
  | .literalWithoutValue | .unexpectedResult => true
  | _ => false

namespace Lexeme

variable {c : Char} {text : List Char} {fault : LexemeFault}

theorem isFallback_readNumber (fails : readNumber text = .error fault) :
    fault.cause.isFallback = false := by
  have timed : ∀ {τ : Type} {length : Nat} {literal : τ → Literal} {value : Except NotationFault τ},
      ofTime text length literal value = .error fault → fault.cause.isFallback = false := by
    intro τ length literal value fails
    cases value with
    | ok time => cases fails
    | error wrong =>
        cases fails
        rfl
  unfold readNumber at fails
  split at fails
  · exact timed fails
  split at fails
  · exact timed fails
  unfold readPlainNumber at fails
  simp only at fails
  split at fails
  · cases fails
  split at fails
  · cases fails
  · cases fails
    rfl

/-- Where a text begins with no lexeme, the lexer knows why. -/
theorem isFallback_read (fails : read c text = .error fault) : fault.cause.isFallback = false := by
  unfold read at fails
  split at fails
  · cases fails
  split at fails
  · cases fails
  split at fails
  · exact isFallback_readNumber fails
  split at fails
  · cases fails
  split at fails
  · unfold readString at fails
    simp only at fails
    split at fails
    · cases fails
    · cases fails
      rfl
  split at fails
  · cases fails
  · cases fails
    rfl

end Lexeme

/-! ## Tokens -/

/-- What a token of its kind has to be for the parser: a literal carries a value, and the word of a
question is the word of the quantifier that is found for it. -/
structure Token.Promised (token : Token) : Prop where
  literal : token.kind = .literal → ∃ value, token.literal? = some value
  keyword : token.kind = .quantifier → ∃ quantifier,
    Quantifier.ofWord? token.lexeme = some quantifier ∧
      token.lexeme.toList.map Char.toLower = quantifier.word.toList

namespace Cursor

variable {cursor : Cursor}

theorem promised_of_pop {popped : Popped cursor} (pops : cursor.pop = .ok popped) :
    popped.token.Promised := by
  rcases pop_eq_ok pops with ⟨_, token, _⟩ | ⟨c, text, lexeme, _, reads, token, _⟩
  · rw [token]
    exact ⟨nofun, nofun⟩
  · rw [token]
    refine ⟨Lexeme.literal_of_read reads, fun asks => ?_⟩
    obtain ⟨quantifier, same⟩ :=
      Lexeme.exists_of_asksQuestion (Lexeme.asksQuestion_of_read reads asks)
    exact ⟨quantifier, Quantifier.ofWord?_of_lower same, same⟩

end Cursor

end RecordQuery
