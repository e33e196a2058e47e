import RecordQuery.Proofs.Tokens.Bytes
import RecordQuery.Proofs.Tokens.OnDemand

/-!
# Scanning by bytes

A cursor carries the characters that are left, so it cannot stand inside of one or behind the end.
A `Scanner` has no more than the query and the number of a byte.  It decodes one character after
another, counts the bytes of digits, times and marks, goes to the numbers that come out and cuts the
query there.  Every one of these steps is checked, and what is behind a step that fails is `none`.

At the place of a cursor no step fails.  A scanner there answers every request as the cursor does
(`Scanner.ask?_eq`), and afterwards it is at the place of the next cursor.  Any sequence of requests
is answered so (`Scanner.run?_eq`), and the scanner never leaves the boundaries of characters.
-/

set_option autoImplicit false

namespace RecordQuery

open Text (StandsAt byteLength byteLength_append)

/-! ## Scanners -/

/-- A query and the number of a byte. -/
structure Scanner where
  source : String
  position : Nat

/-- What scanning gives: a token or an error, and the scanner after that. -/
abbrev Scanner.Scan := Except CompileError Token × Scanner

namespace Scanner

/-- The start of a query. -/
def start (source : String) : Scanner := ⟨source, 0⟩

/-- The scanner at another byte of the same query. -/
def goTo (scanner : Scanner) (position : Nat) : Scanner := ⟨scanner.source, position⟩

/-- The text from the position up to the end. -/
def rest? (scanner : Scanner) : Option String :=
  Text.slice? scanner.source scanner.position scanner.source.utf8ByteSize

/-- The character at the position, if it is not the end. -/
def current? (scanner : Scanner) : Option (Option Char) := (·.toList.head?) <$> scanner.rest?

/-- The text from a byte up to the position. -/
def cut? (scanner : Scanner) (start : Nat) : Option String :=
  Text.slice? scanner.source start scanner.position

/-- The scanner behind the character at the position. -/
def advance? (scanner : Scanner) : Option Scanner := do
  match ← scanner.current? with
  | some c => return scanner.goTo (scanner.position + c.utf8Size)
  | none => return scanner

theorem lt_of_current? {scanner : Scanner} {c : Char} (here : scanner.current? = some (some c)) :
    scanner.position < scanner.source.utf8ByteSize := by
  obtain ⟨text, cut, first⟩ := Option.map_eq_some_iff.1 here
  unfold rest? Text.slice? at cut
  split at cut
  · next inside =>
    refine Nat.lt_of_le_of_ne inside.1 fun ends => ?_
    rw [ends, Option.some_inj, String.Pos.Raw.extract, if_pos (Nat.le_refl _)] at cut
    subst cut
    cases first
  · cases cut

/-- The scanner behind all characters from the position on that pass a test. -/
def advanceWhile? (test : Char → Bool) (scanner : Scanner) : Option Scanner :=
  match _here : scanner.current? with
  | none => none
  | some none => some scanner
  | some (some c) =>
    if test c then advanceWhile? test (scanner.goTo (scanner.position + c.utf8Size))
    else some scanner
termination_by scanner.source.utf8ByteSize - scanner.position
decreasing_by
  have inside := lt_of_current? _here
  have positive := c.utf8Size_pos
  simp only [goTo]
  omega

/-! ### Tokens -/

/-- A token from byte `start` up to the position. -/
def token? (scanner : Scanner) (start : Nat) (kind : TokenKind) (literal? : Option Literal) :
    Option Scan := do
  return (.ok ⟨start, kind, ← scanner.cut? start, literal?⟩, scanner)

/-- An error, with the bytes to blame. -/
def fail (scanner : Scanner) (start stop : Nat) (cause : Cause) : Scan :=
  (.error ⟨scanner.source, start, stop, cause⟩, scanner)

/-- A word that starts at the position. -/
def word? (scanner : Scanner) : Option Scan := do
  let next ← (← scanner.advance?).advanceWhile? Lexeme.continuesWord
  let word ← next.cut? scanner.position
  let lexeme := Lexeme.ofWord word
  return (.ok ⟨scanner.position, lexeme.kind, word, lexeme.literal?⟩, next)

/-- A text in quotes that starts at the position. -/
def string? (scanner : Scanner) : Option Scan := do
  let next ← (← scanner.advance?).advanceWhile? (· ≠ '"')
  match ← next.current? with
  | some _ =>
    let next ← next.advance?
    let lexeme ← next.cut? scanner.position
    let content ← Text.slice? lexeme 1 (← Bytes.difference? lexeme.utf8ByteSize 1)
    return (.ok ⟨scanner.position, .literal, lexeme, some (.string content)⟩, next)
  | none => return next.fail scanner.position next.position .unterminatedString

/-- A number with a point, from byte `start` up to the position. -/
def float? (scanner : Scanner) (start : Nat) : Option Scan := do
  let text ← scanner.cut? start
  let (whole, fraction) := Text.digitRun text.toList
  scanner.token? start .literal (Lexeme.ofDecimal whole fraction.tail).literal?

/-- A number that starts at the position and writes neither a span nor a point in time. -/
def plainNumber? (scanner : Scanner) : Option Scan :=
  let bytes := Text.bytes scanner.source
  let stop := Bytes.digitsEnd bytes scanner.position
  if bytes[stop]? = some '.'.toUInt8 ∧ (bytes[stop + 1]?).any Bytes.isDigitByte then
    (scanner.goTo (Bytes.digitsEnd bytes (stop + 1))).float? scanner.position
  else do
    let next := scanner.goTo stop
    let digits ← next.cut? scanner.position
    let value := Text.digitsValue digits.toList
    if value ≤ 0x7FFFFFFF then
      next.token? scanner.position .literal (some (.integer (Int32.ofNat value)))
    else return next.fail scanner.position next.position (.integerTooLarge digits)

/-- A time up to byte `stop`; where its value is wrong, the digits at the position are to blame. -/
def time? {τ : Type} (scanner : Scanner) (stop : Nat) (literal : τ → Literal)
    (value : Except NotationFault τ) : Option Scan :=
  match value with
  | .ok value => (scanner.goTo stop).token? scanner.position .literal (some (literal value))
  | .error fault =>
    let digits := Bytes.digitsEnd (Text.bytes scanner.source) scanner.position
    some (scanner.fail scanner.position digits (.badTime fault))

/-- A literal that starts with a digit at the position. -/
def number? (scanner : Scanner) : Option Scan := do
  let bytes := Text.bytes scanner.source
  match ← Bytes.span? bytes true scanner.position with
  | some (span, stop) => scanner.time? stop .timeSpan span.value
  | none =>
    match ← Bytes.point? bytes scanner.position with
    | some (point, stop) => scanner.time? stop .dateTime point.value
    | none => scanner.plainNumber?

/-- A point, or a number that begins with one. -/
def point? (scanner : Scanner) : Option Scan := do
  let next ← scanner.advance?
  if (← next.current?).any Char.isDigit then
    (next.goTo (Bytes.digitsEnd (Text.bytes next.source) next.position)).float? scanner.position
  else return (.ok ⟨scanner.position, .mark .dot, Mark.dot.text, none⟩, next)

/-- A mark.  The bytes of a binary operator are counted; another mark is one character. -/
def mark? (scanner : Scanner) (c : Char) : Option Scan := do
  match Mark.read? (← scanner.rest?).toList with
  | some mark =>
    if mark.binary?.isSome then
      return (.ok ⟨scanner.position, .mark mark, mark.text, none⟩,
        scanner.goTo (scanner.position + mark.text.utf8ByteSize))
    else (← scanner.advance?).token? scanner.position (.mark mark) none
  | none =>
    return scanner.fail scanner.position (scanner.position + c.utf8Size) (.unexpectedCharacter c)

/-- The token that starts at the position. -/
def scan? (scanner : Scanner) : Option Scan := do
  match ← scanner.current? with
  | none => return (.ok ⟨scanner.position, .endOfInput, "", none⟩, scanner)
  | some c =>
    if Lexeme.startsWord c then scanner.word?
    else if c = '$' then
      (← scanner.advanceWhile? (· = '$')).token? scanner.position .input none
    else if c.isDigit then scanner.number?
    else if c = '.' then scanner.point?
    else if c = '"' then scanner.string?
    else scanner.mark? c

/-! ### Requests -/

/-- The next token. -/
def pop? (scanner : Scanner) : Option Scan := do
  (← scanner.advanceWhile? Text.isBlank).scan?

/-- The next token, asked of a copy that is then forgotten. -/
def peek? (scanner : Scanner) : Option (Except CompileError Token) := (·.1) <$> scanner.pop?

/-- The answer to a request and the scanner that the next request is made at. -/
def ask? (scanner : Scanner) : Request → Option (Answer × Scanner)
  | .peek => do return (some <$> (← scanner.peek?), scanner)
  | .pop => do
    let (token, next) ← scanner.pop?
    return (some <$> token, next)
  | .tryPop kind => do
    match ← scanner.peek? with
    | .error error => return (.error error, scanner)
    | .ok token =>
      if token.kind = kind then
        let (token, next) ← scanner.pop?
        return (some <$> token, next)
      else return (.ok none, scanner)
  | .require kind => do
    match ← scanner.pop? with
    | (.error error, next) => return (.error error, next)
    | (.ok token, next) =>
      if token.kind = kind then return (.ok (some token), next)
      else return (.error (token.mismatch next.source kind), next)

/-- The answers to requests that are made one after another, and the scanner behind them. -/
def run? (scanner : Scanner) : List Request → Option (List Answer × Scanner)
  | [] => some ([], scanner)
  | request :: requests => do
    let (answer, next) ← scanner.ask? request
    let (answers, last) ← next.run? requests
    return (answer :: answers, last)

end Scanner

/-! ## The place of a cursor -/

/-- The scanner at the place of a cursor. -/
def Cursor.scanner (cursor : Cursor) : Scanner := ⟨cursor.source, cursor.position⟩

@[simp] theorem Cursor.source_scanner (cursor : Cursor) : cursor.scanner.source = cursor.source :=
  rfl

@[simp] theorem Cursor.position_scanner (cursor : Cursor) :
    cursor.scanner.position = cursor.position :=
  rfl

namespace Scanner

variable {cursor : Cursor} {test : Char → Bool}

theorem stands (cursor : Cursor) :
    StandsAt (Text.bytes cursor.source) cursor.position cursor.rest := by
  obtain ⟨passed, split, position⟩ := cursor.splits
  refine ⟨Text.encode passed, ?_, ?_⟩
  · rw [Text.bytes_eq_encode, split, Text.encode_append]
  · rw [Text.length_encode, position]

/-- The byte from which on the rest of a text stands is the place of the cursor there. -/
theorem position_of_split {front back : List Char} {stop : Nat}
    (split : cursor.rest = front ++ back) (behind : StandsAt (Text.bytes cursor.source) stop back) :
    stop = (cursor.advance front.length).position := by
  have there := stands (cursor.advance front.length)
  rw [Cursor.rest_advance, split, List.drop_left] at there
  exact behind.index_unique there

theorem goTo_of_split {front back : List Char} {stop : Nat} (split : cursor.rest = front ++ back)
    (behind : StandsAt (Text.bytes cursor.source) stop back) :
    cursor.scanner.goTo stop = (cursor.advance front.length).scanner := by
  rw [position_of_split split behind]
  rfl

theorem digitsEnd_eq (cursor : Cursor) :
    Bytes.digitsEnd (Text.bytes cursor.source) cursor.position =
      (cursor.advance (Text.digitRun cursor.rest).1.length).position :=
  position_of_split (digitRun_split cursor.rest).symm (stands cursor).stands_digitsEnd

theorem advance_advance (cursor : Cursor) (count count' : Nat) :
    ((cursor.advance count).advance count').scanner =
      (cursor.advance (count + count')).scanner := by
  have position : ((cursor.advance count).advance count').position =
      (cursor.advance (count + count')).position := by
    simp only [Cursor.advance, List.take_add, byteLength_append, Nat.add_assoc]
  simp only [Cursor.scanner, position]
  rfl

theorem rest?_eq (cursor : Cursor) : cursor.scanner.rest? = some (String.ofList cursor.rest) :=
  cursor.slice_rest.slice?_eq

theorem current?_eq (cursor : Cursor) : cursor.scanner.current? = some cursor.rest.head? := by
  rw [current?, rest?_eq, Option.map_eq_map, Option.map_some, String.toList_ofList]

theorem cut?_eq (cursor : Cursor) (count : Nat) :
    (cursor.advance count).scanner.cut? cursor.position =
      some (String.ofList (cursor.rest.take count)) :=
  (cursor.passes_advance count).slice.slice?_eq

theorem advance?_eq (cursor : Cursor) :
    cursor.scanner.advance? = some (cursor.advance 1).scanner := by
  rw [advance?, current?_eq]
  rcases left : cursor.rest with _ | ⟨c, text⟩
  · simp [Cursor.scanner, Cursor.advance, left, byteLength]
  · simp [Cursor.scanner, Cursor.advance, left, byteLength, goTo]

theorem advanceWhile?_of_end {scanner : Scanner} (ended : scanner.current? = some none) :
    scanner.advanceWhile? test = some scanner := by
  rw [advanceWhile?]
  split
  · next failed => cases ended.symm.trans failed
  · rfl
  · next found => cases ended.symm.trans found

theorem advanceWhile?_of_char {scanner : Scanner} {c : Char}
    (here : scanner.current? = some (some c)) :
    scanner.advanceWhile? test =
      if test c then (scanner.goTo (scanner.position + c.utf8Size)).advanceWhile? test
      else some scanner := by
  rw [advanceWhile?]
  split
  · next failed => cases here.symm.trans failed
  · next ended => cases here.symm.trans ended
  · next c' found =>
    cases here.symm.trans found
    rfl

/-- A loop over characters ends behind those that pass its test. -/
theorem advanceWhile?_eq (test : Char → Bool) (cursor : Cursor) :
    cursor.scanner.advanceWhile? test =
      some (cursor.advance (cursor.rest.takeWhile test).length).scanner := by
  induction left : cursor.rest generalizing cursor with
  | nil =>
      have ended := current?_eq cursor
      rw [left, List.head?_nil] at ended
      rw [advanceWhile?_of_end ended]
      simp [Cursor.scanner, Cursor.advance, byteLength]
  | cons c text ih =>
      have found := current?_eq cursor
      rw [left, List.head?_cons] at found
      rw [advanceWhile?_of_char found]
      split
      · next passes =>
        have next := ih (cursor.advance 1) (by rw [Cursor.rest_advance, left]; rfl)
        have moved : cursor.scanner.goTo (cursor.scanner.position + c.utf8Size) =
            (cursor.advance 1).scanner := by
          simp [Cursor.scanner, Cursor.advance, left, byteLength, goTo]
        rw [moved, next, advance_advance, List.takeWhile_cons_of_pos passes, List.length_cons,
          Nat.add_comm]
      · next fails =>
        rw [List.takeWhile_cons_of_neg fails]
        simp [Cursor.scanner, Cursor.advance, byteLength]

theorem skipBlanks_eq (cursor : Cursor) :
    cursor.scanner.advanceWhile? Text.isBlank = some cursor.skipBlanks.scanner :=
  advanceWhile?_eq Text.isBlank cursor

/-! ## Tokens -/

/-- What is scanned at a place where the text begins with a lexeme, or where there is none. -/
def placed (here : Cursor) : Except LexemeFault Lexeme → Scan
  | .ok lexeme =>
    (.ok ⟨here.position, lexeme.kind, String.ofList (here.rest.take (lexeme.more + 1)),
      lexeme.literal?⟩, (here.advance (lexeme.more + 1)).scanner)
  | .error fault =>
    (.error ⟨here.source, here.position, (here.advance fault.extent).position, fault.cause⟩,
      (here.advance fault.passed).scanner)

variable {here : Cursor} {c : Char} {text : List Char}

theorem token?_eq {count : Nat} (here : Cursor) (positive : 0 < count) (kind : TokenKind)
    (literal? : Option Literal) :
    (here.advance count).scanner.token? here.position kind literal? =
      some (placed here (.ok ⟨kind, count - 1, literal?⟩)) := by
  rw [token?, cut?_eq]
  simp only [placed, Nat.sub_add_cancel positive]
  rfl

open Lexeme (ofWord ofDecimal ofTime ofLiteral continuesWord readString readPlainNumber readNumber)

theorem word?_eq (left : here.rest = c :: text) :
    here.scanner.word? =
      some (placed here (.ok (ofWord (String.ofList (c :: text.takeWhile continuesWord))))) := by
  have length : 1 + (text.takeWhile continuesWord).length =
      (ofWord (String.ofList (c :: text.takeWhile continuesWord))).more + 1 := by
    rw [Lexeme.more_ofWord, String.toList_ofList, List.length_cons]
    omega
  have word :
      (c :: text).take ((ofWord (String.ofList (c :: text.takeWhile continuesWord))).more + 1) =
        c :: text.takeWhile continuesWord := by
    rw [← length, Nat.add_comm, List.take_succ_cons, take_length_takeWhile]
  simp only [word?, advance?_eq, advanceWhile?_eq, Cursor.rest_advance, left, List.drop_one,
    List.tail_cons, Option.bind_eq_bind, Option.bind_some, advance_advance, length, placed,
    Cursor.position_scanner, cut?_eq, word]
  rfl

/-- What stands between two quotes can be cut out of them. -/
theorem exists_content {content : List Char} {lexeme : String}
    (quoted : lexeme.toList = '"' :: (content ++ ['"'])) :
    ∃ last, Bytes.difference? lexeme.utf8ByteSize 1 = some last ∧
      Text.slice? lexeme 1 last = some (String.ofList content) := by
  have slice := Text.slice_of_quotes quoted
  exact ⟨_, if_pos (Nat.le_trans slice.start_le_stop (Nat.sub_le _ _)), slice.slice?_eq⟩

theorem string?_eq (left : here.rest = '"' :: text) :
    here.scanner.string? = some (placed here (readString text)) := by
  obtain ⟨rest, split, unquoted, ends⟩ := Text.exists_takeWhile_ne '"' text
  unfold readString
  generalize isContent : text.takeWhile (· ≠ '"') = content at *
  have content_end : (here.advance 1).scanner.advanceWhile? (· ≠ '"') =
      some (here.advance (content.length + 1)).scanner := by
    rw [advanceWhile?_eq, advance_advance, Cursor.rest_advance, left, List.drop_one,
      List.tail_cons, isContent, Nat.add_comm]
  have first : (here.advance (content.length + 1)).scanner.current? = some rest.head? := by
    rw [current?_eq, Cursor.rest_advance, left, split, List.drop_succ_cons, List.drop_left]
  simp only [string?, advance?_eq, content_end, first, Option.bind_eq_bind, Option.bind_some]
  rcases ends with rfl | ⟨after, rfl⟩
  · have length : content.length = text.length := by rw [split, List.append_nil]
    simp only [length, Nat.lt_irrefl, if_false]
    rfl
  · have shorter : content.length < text.length := by
      rw [split, List.length_append, List.length_cons]
      omega
    have quoted : here.rest.take (content.length + 2) = '"' :: (content ++ ['"']) := by
      rw [left, split]
      simp [List.take_append]
    obtain ⟨last, difference, cut⟩ := exists_content (String.toList_ofList.trans quoted)
    rw [if_pos shorter]
    simp only [List.head?_cons, advance_advance, Cursor.position_scanner, Nat.add_assoc,
      Nat.reduceAdd, cut?_eq, difference, cut, Option.bind_some]
    rfl

/-! ### Numbers -/

theorem float?_eq {whole fraction back : List Char} (digits : Text.AllDigits whole)
    (split : here.rest = whole ++ '.' :: fraction ++ back) :
    (here.advance (whole.length + 1 + fraction.length)).scanner.float? here.position =
      some (placed here (.ok (ofDecimal whole fraction))) := by
  have length : whole.length + 1 + fraction.length = (whole ++ '.' :: fraction).length := by
    rw [List.length_append, List.length_cons]
    omega
  have run : Text.digitRun (whole ++ '.' :: fraction) = (whole, '.' :: fraction) :=
    Text.digitRun_append_noDigit digits (Text.noDigit_cons rfl)
  simp only [float?, cut?_eq, length, split, List.take_left, String.toList_ofList, run,
    Option.bind_eq_bind, Option.bind_some, List.tail_cons]
  rw [← length]
  exact token?_eq here (by omega) _ _

/-- The value of a time is taken over, or the digits at the front are to blame. -/
theorem time?_eq {τ : Type} {count stop : Nat} (positive : 0 < count)
    (ends : here.scanner.goTo stop = (here.advance count).scanner) (literal : τ → Literal)
    (value : Except NotationFault τ) :
    here.scanner.time? stop literal value =
      some (placed here (ofTime here.rest count literal value)) := by
  cases value with
  | ok time =>
      rw [time?, ends]
      exact token?_eq here positive _ _
  | error fault =>
      simp only [time?, Cursor.source_scanner, Cursor.position_scanner, digitsEnd_eq]
      rfl

theorem plainNumber?_eq (here : Cursor) (digits : (Text.digitRun here.rest).1 ≠ []) :
    here.scanner.plainNumber? = some (placed here (readPlainNumber here.rest)) := by
  have behind : StandsAt (Text.bytes here.scanner.source)
      (Bytes.digitsEnd (Text.bytes here.scanner.source) here.scanner.position)
      (Text.digitRun here.rest).2 :=
    (stands here).stands_digitsEnd
  have whole := digitRun_split here.rest
  have positive : 0 < (Text.digitRun here.rest).1.length := List.length_pos_iff.2 digits
  unfold plainNumber? readPlainNumber
  dsimp only
  by_cases fraction : (Text.markedDigits '.' (Text.digitRun here.rest).2).1 = []
  · rw [if_neg ((behind.mark_digit_iff (by decide)).not.2 (not_not.2 fraction)),
      if_neg (not_not.2 fraction), goTo_of_split whole.symm behind]
    have cut : here.rest.take (Text.digitRun here.rest).1.length = (Text.digitRun here.rest).1 :=
      take_length_takeWhile Char.isDigit here.rest
    simp only [Cursor.position_scanner, cut?_eq, cut, String.toList_ofList, Option.bind_eq_bind,
      Option.bind_some]
    split
    · exact token?_eq here positive _ _
    · rfl
  · rw [if_pos ((behind.mark_digit_iff (by decide)).2 fraction), if_pos fraction]
    obtain ⟨more, split, isRun⟩ := Text.exists_of_markedDigits fraction
    rw [split] at behind whole
    have more_split : here.rest = (Text.digitRun here.rest).1 ++ '.' :: (Text.digitRun more).1 ++
        (Text.digitRun more).2 := by
      rw [List.append_assoc, List.cons_append, digitRun_split, whole]
    have ends := goTo_of_split more_split (behind.tail (by decide)).stands_digitsEnd
    rw [ends, isRun, List.length_append, List.length_cons, ← Nat.add_assoc, Nat.add_right_comm]
    exact float?_eq (Text.allDigits_digitRun here.rest) more_split

theorem number?_eq (here : Cursor) (digits : (Text.digitRun here.rest).1 ≠ []) :
    here.scanner.number? = some (placed here (readNumber here.rest)) := by
  have positive : ∀ {written back : List Char}, here.rest = written ++ back → written ≠ [] →
      0 < written.length := fun _ some => List.length_pos_iff.2 some
  unfold number? readNumber
  simp only [Cursor.source_scanner, Cursor.position_scanner]
  rcases Bytes.span?_cases true (stands here) with
    ⟨noSpan, spanless⟩ | ⟨span, rest, stop, reads, found, behind⟩
  · rcases Bytes.point?_cases (stands here) with
      ⟨noPoint, pointless⟩ | ⟨point, rest, stop, reads, found, behind⟩
    · rw [noSpan, spanless, noPoint, pointless]
      exact plainNumber?_eq here digits
    · rw [noSpan, spanless, reads, found]
      have ends := goTo_of_split (PointNotation.eq_chars_append reads) behind
      exact time?_eq (by simp [PointNotation.chars]) ends _ _
  · rw [reads, found]
    have ends := goTo_of_split (SpanNotation.eq_chars_append reads) behind
    exact time?_eq (by simp [SpanNotation.chars]) ends _ _

/-! ### Marks -/

/-- A mark that is no binary operator is one character. -/
theorem length_text_of_binary?_none {mark : Mark} (other : mark.binary?.isSome = false) :
    mark.text.toList.length = 1 := by
  revert other
  cases mark <;> decide

theorem mark?_eq (left : here.rest = c :: text) :
    here.scanner.mark? c = some (placed here (match Mark.read? (c :: text) with
      | some mark => .ok (.plain (.mark mark) (mark.text.toList.length - 1))
      | none => .error ⟨.unexpectedCharacter c, 1, 0⟩)) := by
  unfold mark?
  rw [rest?_eq, left]
  simp only [String.toList_ofList, Option.bind_eq_bind, Option.bind_some]
  cases reads : Mark.read? (c :: text) with
  | some mark =>
      obtain ⟨back, split⟩ := Mark.prefix_of_read? reads
      have positive := mark.length_text_pos
      have written : here.rest.take mark.text.toList.length = mark.text.toList := by
        rw [left, ← split, List.take_left]
      simp only
      cases binary : mark.binary?.isSome with
      | true =>
          have size := Text.byteLength_toList mark.text
          have moved : here.scanner.goTo (here.position + mark.text.utf8ByteSize) =
              (here.advance mark.text.toList.length).scanner := by
            simp only [goTo, Cursor.scanner, Cursor.advance, written, size]
          simp only [if_true, Cursor.position_scanner, moved, placed, Lexeme.plain,
            Nat.sub_add_cancel positive, written, String.ofList_toList]
          rfl
      | false =>
          simp only [Bool.false_eq_true, if_false, advance?_eq, Option.bind_some,
            length_text_of_binary?_none binary]
          exact token?_eq here Nat.one_pos _ _
  | none =>
      simp only [placed, Cursor.advance, left, List.take_succ_cons, List.take_zero, byteLength]
      rfl

theorem point?_eq (left : here.rest = '.' :: text) :
    here.scanner.point? = some (placed here (
      if (Text.digitRun text).1 ≠ [] then .ok (ofDecimal [] (Text.digitRun text).1)
      else .ok (.plain (.mark .dot) 0))) := by
  have behind : (here.advance 1).rest = text := by rw [Cursor.rest_advance, left]; rfl
  have digit : text.head?.any Char.isDigit = true ↔ (Text.digitRun text).1 ≠ [] := by
    cases text with
    | nil => simp [Text.digitRun]
    | cons d more => cases isDigit : d.isDigit <;> simp [Text.digitRun, isDigit]
  have ends : (here.advance 1).scanner.goTo (Bytes.digitsEnd
      (Text.bytes (here.advance 1).scanner.source) (here.advance 1).scanner.position) =
      (here.advance (1 + (Text.digitRun text).1.length)).scanner := by
    rw [← advance_advance]
    have stop := digitsEnd_eq (here.advance 1)
    rw [behind] at stop
    exact congrArg (here.advance 1).scanner.goTo stop
  simp only [point?, advance?_eq, current?_eq, behind, digit, Option.bind_eq_bind, Option.bind_some]
  by_cases digits : (Text.digitRun text).1 = []
  · rw [if_neg (not_not.2 digits), if_neg (not_not.2 digits)]
    simp only [placed, left]
    rfl
  · rw [if_pos digits, if_pos digits, ends]
    have split : here.rest = [] ++ '.' :: (Text.digitRun text).1 ++ (Text.digitRun text).2 := by
      rw [left, List.nil_append, List.cons_append, digitRun_split]
    have reads := float?_eq Text.allDigits_nil split
    rwa [List.length_nil, Nat.zero_add] at reads

/-! ### All tokens -/

/-- The token at the place of a cursor is the one that the text left there begins with. -/
theorem scan?_eq (left : here.rest = c :: text) :
    here.scanner.scan? = some (placed here (Lexeme.read c text)) := by
  unfold scan? Lexeme.read
  rw [current?_eq, left]
  simp only [List.head?_cons, Option.bind_eq_bind, Option.bind_some]
  by_cases word : Lexeme.startsWord c
  · rw [if_pos word, if_pos word]
    exact word?_eq left
  rw [if_neg word, if_neg word]
  by_cases dollar : c = '$'
  · have run : (here.rest.takeWhile (· = '$')).length = (text.takeWhile (· = '$')).length + 1 := by
      rw [left, List.takeWhile_cons_of_pos (by simpa using dollar), List.length_cons]
    rw [if_pos dollar, if_pos dollar, advanceWhile?_eq, Option.bind_some, run]
    exact token?_eq here (Nat.succ_pos _) _ _
  rw [if_neg dollar, if_neg dollar]
  by_cases digit : c.isDigit
  · rw [if_pos digit, if_pos digit, ← left]
    exact number?_eq here (left ▸ Text.digitRun_cons_ne_nil digit text)
  rw [if_neg digit, if_neg digit]
  by_cases point : c = '.'
  · subst point
    rw [if_pos rfl, point?_eq left]
    by_cases digits : (Text.digitRun text).1 = []
    · rw [if_neg (not_not.2 digits), if_neg fun both => both.2 digits, if_neg (by decide)]
      rfl
    · rw [if_pos digits, if_pos ⟨rfl, digits⟩]
  have noFraction : ¬ (c = '.' ∧ (Text.digitRun text).1 ≠ []) := fun both => point both.1
  rw [if_neg point, if_neg noFraction]
  by_cases quote : c = '"'
  · subst quote
    rw [if_pos rfl, if_pos rfl]
    exact string?_eq left
  rw [if_neg quote, if_neg quote]
  exact mark?_eq left

/-! ## Requests -/

theorem pop?_of_ok {cursor : Cursor} {popped : Cursor.Popped cursor}
    (pops : cursor.pop = .ok popped) :
    cursor.scanner.pop? = some (.ok popped.token, popped.next.scanner) := by
  rw [pop?, skipBlanks_eq, Option.bind_eq_bind, Option.bind_some]
  rcases Cursor.pop_eq_ok pops with
    ⟨left, token, next⟩ | ⟨c, text, lexeme, left, reads, token, next⟩
  · rw [token, next, scan?, current?_eq, left]
    rfl
  · rw [token, next, scan?_eq left, reads, placed, left]

theorem pop?_of_error {cursor : Cursor} {stuck : Stuck} (fails : cursor.pop = .error stuck) :
    cursor.scanner.pop? = some (.error stuck.error, stuck.cursor.scanner) := by
  obtain ⟨c, text, fault, left, unread, rfl⟩ := Cursor.pop_eq_error fails
  rw [pop?, skipBlanks_eq, Option.bind_eq_bind, Option.bind_some, scan?_eq left, unread]
  rfl

/-- A scanner at the place of a cursor answers a request as the cursor does, and goes on at the
place where the cursor goes on. -/
theorem ask?_eq (cursor : Cursor) (request : Request) :
    cursor.scanner.ask? request =
      some ((cursor.ask request).1, (cursor.ask request).2.scanner) := by
  cases pops : cursor.pop with
  | ok popped =>
      have scans := pop?_of_ok pops
      rw [Cursor.ask_of_pop_ok pops]
      cases request with
      | peek => rw [ask?, peek?, scans]; rfl
      | pop => rw [ask?, scans]; rfl
      | tryPop kind =>
          rw [ask?, peek?, scans]
          by_cases same : popped.token.kind = kind
          · simp [same]
          · simp [same]
      | require kind =>
          rw [ask?, scans]
          by_cases same : popped.token.kind = kind
          · simp [same]
          · simp [same]
  | error stuck =>
      have scans := pop?_of_error pops
      rw [Cursor.ask_of_pop_error pops]
      cases request with
      | peek => rw [ask?, peek?, scans]; rfl
      | pop => rw [ask?, scans]; rfl
      | tryPop kind => rw [ask?, peek?, scans]; rfl
      | require kind => rw [ask?, scans]; rfl

theorem source_ask (cursor : Cursor) (request : Request) :
    (cursor.ask request).2.source = cursor.source := by
  cases pops : cursor.pop with
  | ok popped =>
      have next := Cursor.source_pop pops
      rw [Cursor.ask_of_pop_ok pops]
      cases request with
      | peek => rfl
      | pop => exact next
      | tryPop kind =>
          dsimp only
          split
          · exact next
          · rfl
      | require kind =>
          dsimp only
          split
          · exact next
          · exact next
  | error stuck =>
      obtain ⟨_, _, _, _, _, rfl⟩ := Cursor.pop_eq_error pops
      rw [Cursor.ask_of_pop_error pops]
      cases request with
      | peek => rfl
      | pop => rfl
      | tryPop kind => rfl
      | require kind => rfl

/-- Requests that are made one after another, from the place of a cursor on, never fail and lead to
the place of a cursor. -/
theorem run?_eq (cursor : Cursor) (requests : List Request) :
    ∃ last : Cursor, last.source = cursor.source ∧
      cursor.scanner.run? requests = some (cursor.answers requests, last.scanner) := by
  induction requests generalizing cursor with
  | nil => exact ⟨cursor, rfl, rfl⟩
  | cons request requests ih =>
      obtain ⟨last, same, runs⟩ := ih (cursor.ask request).2
      refine ⟨last, same.trans (source_ask cursor request), ?_⟩
      rw [run?, ask?_eq, Option.bind_eq_bind, Option.bind_some]
      simp only [runs]
      rfl

end Scanner

end RecordQuery
