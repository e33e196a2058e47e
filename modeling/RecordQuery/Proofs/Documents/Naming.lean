import RecordQuery.Proofs.Documents.Order
import RecordQuery.Proofs.Grammar.Agreement
import RecordQuery.Proofs.Tokens.Tiling

/-!
# Keys as names

The keys of documents become the names of members, and a key that is a word of the language can be
asked for by `$.key`.  Names are taken without regard to case, so what is read is the value of the
first key with the same letters: the key itself, unless an earlier one differs from it in case only
(`Document.spelling?`).  The value of a key with other letters is never read, and a longer key that
begins with the name is none of the candidates, since the name of a key has an exact match.

`$.key` is a run of `$`, a dot and a name up to the end of the text (`Reads.ofKey`).  Its
expression compiles, and over a document it has the value of that key there, as the type that was
inferred for it (`Document.nextExpression_reads_key`).
-/

set_option autoImplicit false

namespace RecordQuery

open Word (read? AtEnd)

/-! ## Names behind a dot -/

namespace Lexeme

variable {c : Char} {text : List Char} {lexeme : Lexeme}

/-- A name begins with a letter, `_` or `@`. -/
theorem startsWord_of_identifier (reads : read c text = .ok lexeme)
    (isName : lexeme.kind = .identifier) : startsWord c = true := by
  by_contra notWord
  rw [read, if_neg notWord] at reads
  split at reads
  · cases reads
    cases isName
  split at reads
  · obtain ⟨length, literal, rfl, _⟩ := readNumber_cases reads
    cases isName
  split at reads
  · cases reads
    cases isName
  split at reads
  · obtain ⟨content, after, _, _, rfl⟩ := take_readString reads
    cases isName
  split at reads
  · cases reads
    cases isName
  · cases reads

theorem not_isDigit_of_startsWord (starts : startsWord c = true) : c.isDigit = false := by
  refine Bool.eq_false_iff.2 fun digit => ?_
  have bounds : 48 ≤ c.val.toNat ∧ c.val.toNat ≤ 57 := by
    simpa [Char.isDigit, UInt32.le_iff_toNat_le] using digit
  have small : c.val < 0x80 := UInt32.lt_iff_toNat_lt.2 (Nat.lt_of_le_of_lt bounds.2 (by decide))
  rw [startsWord, Text.isAlphabetic, if_pos small, Bool.or_eq_true, Bool.or_eq_true, beq_iff_eq,
    beq_iff_eq] at starts
  rcases starts with (letter | rfl) | rfl
  · have letter : (65 ≤ c.val.toNat ∧ c.val.toNat ≤ 90) ∨
        (97 ≤ c.val.toNat ∧ c.val.toNat ≤ 122) := by
      simpa [Char.isAlpha, Char.isUpper, Char.isLower, UInt32.le_iff_toNat_le] using letter
    omega
  · exact absurd digit (by decide)
  · exact absurd digit (by decide)

end Lexeme

namespace Word

variable {text after : List Char} {word : Word}

/-- A dot with no digit behind it is a mark. -/
theorem read?_dot (digits : (Text.digitRun text).1 = []) :
    read? ('.' :: text) = some (⟨.mark .dot, ".", none⟩, text) := by
  have reads : Lexeme.read '.' text = .ok (.plain (.mark .dot) 0) := by
    rw [Lexeme.read, if_neg (by decide), if_neg (by decide), if_neg (by decide),
      if_neg fun both => both.2 digits, if_neg (by decide)]
    rfl
  have left : Text.trimStart ('.' :: text) = '.' :: text := rfl
  simp only [read?, left, reads]
  rfl

/-- No digit stands at the front of a text that begins with a name. -/
theorem digitRun_of_identifier (reads : read? text = some (word, after))
    (isName : word.kind = .identifier) : (Text.digitRun text).1 = [] := by
  cases text with
  | nil => rfl
  | cons c more =>
      rw [Text.digitRun, List.takeWhile_cons]
      cases digit : c.isDigit with
      | false => rfl
      | true =>
          have left : Text.trimStart (c :: more) = c :: more := by
            rw [Text.trimStart, List.dropWhile_cons, Text.not_isBlank_of_isDigit digit]
            rfl
          simp only [read?, left] at reads
          split at reads
          · next lexeme lexed =>
            cases reads
            have starts := Lexeme.startsWord_of_identifier lexed isName
            cases digit.symm.trans (Lexeme.not_isDigit_of_startsWord starts)
          · cases reads

/-- A text that is cut into one token and the end is one word. -/
theorem read?_of_tokenize {source : String} {token ending : Token}
    (cuts : tokenize source = .ok [token, ending]) :
    ∃ after, read? source.toList = some (token.word, after) ∧ AtEnd after := by
  obtain ⟨before, last, popped, run, ends, ended, split⟩ :=
    Cursor.tokens_eq_ok (mapError_eq_ok_iff.1 cuts)
  have split : [token] ++ [ending] = before ++ [popped.token] := split
  obtain ⟨rfl, _⟩ := List.append_inj' split rfl
  cases run with
  | more pops real rest =>
      cases rest
      exact ⟨_, Cursor.read?_of_pop pops, _, _, Cursor.read?_of_pop ends, ended⟩

end Word

variable {ρ : Type} {now : DateTime}

/-- `$.key` is the member of the input that the key stands for. -/
theorem Reads.ofKey {type : ValueType ρ} {found : Member ρ} {key : String} {word : Word}
    {after : List Char} (now : DateTime) (floor : Int)
    (reads : read? key.toList = some (word, after)) (isName : word.kind = .identifier)
    (ends : AtEnd after) (resolves : type.resolveMember word.lexeme = .ok found) :
    Reads now (.expression ⟨type, []⟩ floor (.member (.input 0 type) found)) ("$." ++ key).toList
      after := by
  have dot := Word.read?_dot (Word.digitRun_of_identifier reads isName)
  have run : read? ("$." ++ key).toList = some (⟨.input, "$", none⟩, '.' :: key.toList) := by
    rw [String.toList_append]
    rfl
  have owned : (Expr.input 0 type).ofMember word.lexeme = .ok (.member (.input 0 type) found) :=
    Expr.ofMember_eq_ok_iff.2 ⟨found, resolves, rfl⟩
  obtain ⟨ending, behind, closes, last⟩ := ends
  refine .expression (.input run rfl rfl) (.suffix dot rfl reads isName owned ?_)
    (.stop closes ?_)
  · exact .noSuffix closes (by rw [last]; nofun)
  · refine ⟨by rw [last]; nofun, ?_⟩
    rintro mark entry same
    cases last.symm.trans same

/-- The next expression of a parser is the one that is derivable. -/
theorem Parser.nextExpression_of_reads {type : ValueType ρ} {source : String} {floor : Int}
    {whole : Expr ρ} {rest : List Char}
    (derivation : Reads now (.expression ⟨type, []⟩ floor whole) source.toList rest) :
    ((Parser.start now type source).nextExpression floor).1 = .ok whole ∧
      ((Parser.start now type source).nextExpression floor).2.cursor.rest = rest := by
  obtain ⟨read, expressed, rfl, rfl⟩ := Parser.parses_of_reads derivation (Cursor.start source) rfl
  unfold Parser.nextExpression Parser.start Parser.scope
  rw [expressed]
  exact ⟨rfl, rfl⟩

/-! ## Keys -/

namespace Document

/-- The first key of the documents with the letters of a name. -/
def spelling? (documents : List Json) (name : String) : Option String :=
  (keysOf documents).find? fun key => Text.lowercase key = Text.lowercase name

section Spelling

variable {documents : List Json} {key first : String}

theorem exists_spelling? (held : key ∈ keysOf documents) :
    ∃ first, spelling? documents key = some first := by
  refine Option.isSome_iff_exists.1 (List.find?_isSome.2 ⟨key, held, ?_⟩)
  exact decide_eq_true rfl

theorem lowercase_spelling? (spelled : spelling? documents key = some first) :
    Text.lowercase first = Text.lowercase key := by
  simpa using List.find?_some spelled

/-- A key spells itself unless one that differs from it in case only comes before it. -/
theorem spelling?_eq_self_or (held : key ∈ keysOf documents)
    (spelled : spelling? documents key = some first) :
    first = key ∨ ∃ before after, keysOf documents = before ++ first :: after ∧ key ∈ after := by
  obtain ⟨_, before, after, split, earlier⟩ := List.find?_eq_some_iff_append.1 spelled
  rw [split, List.mem_append, List.mem_cons] at held
  rcases held with mem | rfl | mem
  · simpa using earlier key mem
  · exact .inl rfl
  · exact .inr ⟨before, after, split, mem⟩

end Spelling

variable [HasDocuments ρ] {documents : List Json}

theorem kindOf?_of_record {name name' : String} {members : List (Member ρ)}
    (record : inferType name documents = .record name' members) :
    kindOf? documents = some .object := by
  rw [inferType_eq] at record
  split at record
  · cases record
  · cases record
  · cases record
  · rcases numberType_cases (ρ := ρ) documents with ⟨_, same⟩ | ⟨_, same⟩ <;>
      (rw [same] at record; cases record)
  · rcases textType_cases (ρ := ρ) documents with ⟨_, same⟩ | ⟨_, same⟩ <;>
      (rw [same] at record; cases record)
  · cases record
  · next decided => exact decided

/-- The name of a key stands for the first key with its letters. -/
theorem resolveMember_inferType {name key first : String}
    (decided : kindOf? documents = some .object)
    (spelled : spelling? documents key = some first) :
    (inferType name documents : ValueType ρ).resolveMember key =
      .ok (member first (inferType first (valuesAt first documents))) := by
  have found : ((keysOf documents).map fun key =>
      (member key (inferType key (valuesAt key documents)) : Member ρ)).find?
        (fun member => Text.lowercase member.name = Text.lowercase key) =
      some (member first (inferType first (valuesAt first documents))) := by
    rw [List.find?_map]
    exact congrArg (Option.map _) spelled
  rw [inferType_of_object name decided, ValueType.resolveMember, ValueType.candidates]
  simp only [ValueType.members, found]

/-- A member reads a key of a document as the type of the member. -/
theorem readFrom_member {key name : String} {type : ValueType ρ} {members : List (Member ρ)}
    (document : Json) :
    (member key type).readFrom (toValue (.record name members) document) =
      (document.get? key).elim .null (toValue type) := by
  cases document with
  | object held =>
      simp only [toValue, Field.readFrom, member, RecordKind.reader, HasDocuments.kind.unwrap?_wrap,
        Option.elim_some]
  | _ => rfl

/-- A key of the documents that is a name can be asked for.  Over a document `$.key` is what the
document has under the first key with the same letters, as the type inferred for that key, and null
where it has nothing there.  So the key that is read is the one that was asked for, unless it comes
before that one and differs from it in case only. -/
theorem nextExpression_reads_key [BEq ρ] (now : DateTime) {name : String}
    {members : List (Member ρ)} {key : String} {token ending : Token}
    (record : (inferSchema documents : Schema ρ Json).type = .record name members)
    (held : ∃ document ∈ documents, key ∈ document.keys)
    (cuts : tokenize key = .ok [token, ending]) (isName : token.kind = .identifier)
    (whole : token.lexeme = key) :
    ∃ (expr : Expr ρ) (first : String),
      let read := (Parser.start now (inferSchema documents).type ("$." ++ key)).nextExpression
        lowestPrecedence
      read.1 = .ok expr ∧ AtEnd read.2.cursor.rest ∧
      spelling? documents key = some first ∧ Text.lowercase first = Text.lowercase key ∧
      (first = key ∨ ∃ before after, keysOf documents = before ++ first :: after ∧ key ∈ after) ∧
      ∀ document, expr.valueOn ((inferSchema documents).lift document) =
        (document.get? first).elim .null
          (toValue (inferType first (valuesAt first documents))) := by
  have held : key ∈ keysOf documents := mem_keysOf_iff.2 held
  obtain ⟨first, spelled⟩ := exists_spelling? held
  obtain ⟨after, reads, ends⟩ := Word.read?_of_tokenize cuts
  have resolves : (inferType rootName documents : ValueType ρ).resolveMember token.lexeme =
      .ok (member first (inferType first (valuesAt first documents))) :=
    resolveMember_inferType (kindOf?_of_record record) (whole ▸ spelled)
  obtain ⟨compiles, left⟩ := Parser.nextExpression_of_reads
    (Reads.ofKey now lowestPrecedence reads isName ends resolves)
  refine ⟨_, first, compiles, left ▸ ends, spelled, lowercase_spelling? spelled,
    spelling?_eq_self_or held spelled, fun document => ?_⟩
  rw [← readFrom_member document, ← record]
  rfl

/-- One key begins like another one and differs from a third in case only. -/
theorem nextExpression_reads_key_prefix :
    ∃ (now : DateTime) (one two : Json) (members : List (Member Json)) (token ending : Token)
      (expr : Expr Json),
      one = .object [("na", .string "x"), ("name", .integer 1)] ∧
      two = .object [("NA", .integer 2)] ∧
      (inferSchema [one, two] : Schema Json Json).type = .record rootName members ∧
      (∃ document ∈ [one, two], "na" ∈ document.keys) ∧
      tokenize "na" = .ok [token, ending] ∧ token.kind = .identifier ∧ token.lexeme = "na" ∧
      ((Parser.start now (inferSchema [one, two]).type ("$." ++ "na")).nextExpression
        lowestPrecedence).1 = .ok expr ∧
      expr.valueOn ((inferSchema [one, two]).lift one) = .string "x" ∧
      expr.valueOn ((inferSchema [one, two]).lift two) = .null := by
  have cuts : tokenize "na" =
      .ok [⟨0, .identifier, "na", none⟩, ⟨2, .endOfInput, "", none⟩] := by cbv
  have record : (inferSchema [.object [("na", .string "x"), ("name", .integer 1)],
      .object [("NA", .integer 2)]] : Schema Json Json).type =
      .record rootName [member "na" .string, member "name" .integer, member "NA" .integer] := by
    cbv
  have held : ∃ document ∈ [Json.object [("na", .string "x"), ("name", .integer 1)],
      .object [("NA", .integer 2)]], "na" ∈ document.keys := by decide +kernel
  have spells : spelling? [.object [("na", .string "x"), ("name", .integer 1)],
      .object [("NA", .integer 2)]] "na" = some "na" := by decide +kernel
  obtain ⟨expr, first, compiles, _, spelled, _, _, values⟩ :=
    nextExpression_reads_key ⟨⟨0, by decide⟩, .midnight⟩ record held cuts rfl rfl
  obtain rfl := Option.some.inj (spelled.symm.trans spells)
  have type : (inferType "na" (valuesAt "na" [.object [("na", .string "x"), ("name", .integer 1)],
      .object [("NA", .integer 2)]]) : ValueType Json) = .string := by cbv
  refine ⟨_, _, _, _, _, _, expr, rfl, rfl, record, held, cuts, rfl, rfl, compiles, ?_, ?_⟩
  · rw [values, type]
    rfl
  · rw [values, type]
    rfl

/-- Asked for by its own name, a key that differs from an earlier one in case only is not read. -/
theorem nextExpression_reads_case_variant :
    ∃ (now : DateTime) (document : Json) (members : List (Member Json)) (token ending : Token)
      (expr : Expr Json),
      document = .object [("Name", .integer 1), ("name", .integer 2)] ∧
      (inferSchema [document] : Schema Json Json).type = .record rootName members ∧
      "name" ∈ document.keys ∧
      tokenize "name" = .ok [token, ending] ∧ token.kind = .identifier ∧ token.lexeme = "name" ∧
      ((Parser.start now (inferSchema [document]).type ("$." ++ "name")).nextExpression
        lowestPrecedence).1 = .ok expr ∧
      expr.valueOn ((inferSchema [document]).lift document) = .integer 1 ∧
      (document.get? "name").elim .null
        (toValue (inferType "name" (valuesAt "name" [document]))) = (.integer 2 : Value Json) := by
  have cuts : tokenize "name" =
      .ok [⟨0, .identifier, "name", none⟩, ⟨4, .endOfInput, "", none⟩] := by cbv
  have record : (inferSchema [.object [("Name", .integer 1), ("name", .integer 2)]] :
      Schema Json Json).type =
      .record rootName [member "Name" .integer, member "name" .integer] := by cbv
  obtain ⟨after, reads, ends⟩ := Word.read?_of_tokenize cuts
  have resolves : (inferType rootName [.object [("Name", .integer 1), ("name", .integer 2)]] :
      ValueType Json).resolveMember "name" = .ok (member "Name" .integer) := by
    rw [show inferType rootName _ = _ from record]
    rfl
  obtain ⟨compiles, _⟩ := Parser.nextExpression_of_reads
    (Reads.ofKey ⟨⟨0, by decide⟩, .midnight⟩ lowestPrecedence reads rfl ends resolves)
  exact ⟨_, _, _, _, _, _, rfl, record, by decide, cuts, rfl, rfl, compiles, by cbv, by cbv⟩

end Document

end RecordQuery
