import Mathlib.Data.String.Basic
import RecordQuery.Proofs.Tokens.Respacing

/-!
# Texts as bytes

A machine that reads a text counts its bytes.  It looks at the byte of a number, counts digits, goes
one byte further to skip a mark, and cuts the text at the numbers that come out.  Nothing of this is
safe by its shape: a text can be cut at boundaries of characters only (`slice?`), a range has to be
inside of the bytes (`range?`), a difference must not be negative (`difference?`), and a byte that
is taken for a digit has to be one (`digit?`).  Where a machine would stop there is `none`.

The written forms of time are found in this way (`span?`, `point?`).  That a text stands at a number
of a byte (`StandsAt`) is the one relation between the two views.  From it follows that nothing
stops, and that the digits and the end that are found are those that `SpanNotation.read?` and
`PointNotation.read?` give for the characters.
-/

set_option autoImplicit false

namespace RecordQuery

open Text (Slice byteLength byteLength_append digitRun markedDigits AllDigits)

/-! ## Cuts -/

namespace Text

/-- The text from one byte up to another one.  There is none if the first byte is behind the second
one, or if one of them is no boundary of a character in the text. -/
def slice? (source : String) (start stop : Nat) : Option String :=
  if start ≤ stop ∧ String.Pos.Raw.IsValid source ⟨start⟩ ∧
      String.Pos.Raw.IsValid source ⟨stop⟩ then
    some (String.Pos.Raw.extract source ⟨start⟩ ⟨stop⟩)
  else none

theorem byteLength_eq_utf8Len (text : List Char) : byteLength text = String.utf8Len text := by
  rw [byteLength_eq_utf8ByteSize, ← String.utf8Len_toList, String.toList_ofList]

/-- A slice can be cut out. -/
theorem Slice.slice?_eq {source : String} {start stop : Nat} {piece : List Char}
    (slice : Slice source start stop piece) :
    slice? source start stop = some (String.ofList piece) := by
  unfold slice?
  rw [if_pos ⟨slice.start_le_stop, slice.isValid⟩]
  obtain ⟨before, after, split, rfl, rfl⟩ := slice
  have cut := String.extract_of_valid before piece after
  rw [← split, String.ofList_toList] at cut
  rw [byteLength_append, byteLength_eq_utf8Len, byteLength_eq_utf8Len, cut]

example : slice? "aß" 1 2 = none := by decide

/-- What stands between two quotes begins behind the first byte and ends before the last one. -/
theorem slice_of_quotes {lexeme : String} {content : List Char}
    (quoted : lexeme.toList = '"' :: (content ++ ['"'])) :
    Slice lexeme 1 (lexeme.utf8ByteSize - 1) content := by
  have size := byteLength_toList lexeme
  rw [quoted, ← List.cons_append, byteLength_append] at size
  refine ⟨['"'], ['"'], quoted, rfl, ?_⟩
  rw [← size]
  rfl

end Text

/-! ## Bytes and their numbers -/

namespace Bytes

/-- The difference of two numbers, unless it is negative. -/
def difference? (left right : Nat) : Option Nat :=
  if right ≤ left then some (left - right) else none

/-- The bytes from one up to another one.  There are none if the first is behind the second one, or
the second one behind the end. -/
def range? (bytes : List UInt8) (start stop : Nat) : Option (List UInt8) :=
  if start ≤ stop ∧ stop ≤ bytes.length then some ((bytes.drop start).take (stop - start)) else none

/-- A digit of ASCII. -/
def isDigitByte (byte : UInt8) : Bool := 48 ≤ byte.toNat && byte.toNat ≤ 57

/-- The digit that a byte is. -/
def digit? (byte : UInt8) : Option Char :=
  if isDigitByte byte then some (Char.ofNat byte.toNat) else none

/-- The digits in a range of bytes. -/
def digitsIn? (bytes : List UInt8) (start stop : Nat) : Option (List Char) := do
  (← range? bytes start stop).mapM digit?

/-- The byte behind the digits at an index. -/
def digitsEnd (bytes : List UInt8) (index : Nat) : Nat :=
  match _here : bytes[index]? with
  | some byte => if isDigitByte byte then digitsEnd bytes (index + 1) else index
  | none => index
termination_by bytes.length - index
decreasing_by
  obtain ⟨inside, _⟩ := List.getElem?_eq_some_iff.1 _here
  omega

/-- The byte behind a mark and the digits after it; the index itself where there is no mark, or no
digit after it. -/
def markedEnd? (bytes : List UInt8) (mark : Char) (index : Nat) : Option Nat :=
  if bytes[index]? = some mark.toUInt8 then do
    let stop := digitsEnd bytes (index + 1)
    return if 0 < (← difference? stop (index + 1)) then stop else index
  else some index

/-- The digits after a mark, when they end at another byte than the one the mark is at. -/
def markedDigitsIn? (bytes : List UInt8) (index stop : Nat) : Option (List Char) :=
  if stop = index then some [] else digitsIn? bytes (index + 1) stop

end Bytes

/-! ## Encoded characters -/

namespace Text

/-- The bytes of a text. -/
def bytes (source : String) : List UInt8 := source.toByteArray.data.toList

/-- The bytes of some characters. -/
def encode (text : List Char) : List UInt8 := text.flatMap String.utf8EncodeChar

theorem encode_append (left right : List Char) :
    encode (left ++ right) = encode left ++ encode right :=
  List.flatMap_append

theorem length_encode (text : List Char) : (encode text).length = byteLength text := by
  induction text with
  | nil => rfl
  | cons c text ih =>
      rw [← List.singleton_append, encode_append, List.length_append, ih, byteLength_append]
      simp [encode, byteLength, String.length_utf8EncodeChar]

theorem bytes_eq_encode (source : String) : bytes source = encode source.toList := by
  conv_lhs => rw [← String.ofList_toList (s := source)]
  rw [bytes, String.toByteArray_ofList, List.utf8Encode, List.data_toByteArray, encode]

theorem toNat_toUInt8 {c : Char} (ascii : c.toNat < 128) : c.toUInt8.toNat = c.toNat := by
  rw [Char.toUInt8, UInt32.toNat_toUInt8]
  exact Nat.mod_eq_of_lt (Nat.lt_trans ascii (by decide))

/-- A character of ASCII is one byte, and any other one begins with a byte that is not of ASCII. -/
theorem encode_cons (c : Char) (text : List Char) :
    (c.toNat < 128 ∧ encode (c :: text) = c.toUInt8 :: encode text) ∨
      (128 ≤ c.toNat ∧ ∃ first more, encode (c :: text) = first :: more ∧ 128 ≤ first.toNat) := by
  rcases Nat.lt_or_ge c.toNat 128 with ascii | other
  · refine .inl ⟨ascii, ?_⟩
    have one : c.utf8Size = 1 :=
      Char.utf8Size_eq_one_iff.2 (UInt32.le_iff_toNat_le.2 (Nat.le_of_lt_succ ascii))
    rw [encode, List.flatMap_cons, String.utf8EncodeChar_eq_singleton one]
    rfl
  · refine .inr ⟨other, ?_⟩
    have long : ¬ c.val.toNat ≤ 127 := Nat.not_le.2 other
    rw [encode, List.flatMap_cons, String.utf8EncodeChar]
    simp only [if_neg long]
    split
    · exact ⟨_, _, rfl, by simp only [UInt8.toNat_ofNat']; omega⟩
    split
    · exact ⟨_, _, rfl, by simp only [UInt8.toNat_ofNat']; omega⟩
    · exact ⟨_, _, rfl, by simp only [UInt8.toNat_ofNat']; omega⟩

/-- A mark of ASCII is the first byte where it is the first character. -/
theorem head?_encode_eq {mark : Char} (ascii : mark.toNat < 128) (text : List Char) :
    (encode text).head? = some mark.toUInt8 ↔ text.head? = some mark := by
  cases text with
  | nil => simp [encode]
  | cons c text =>
      rw [List.head?_cons, Option.some_inj]
      rcases encode_cons c text with ⟨single, bytes⟩ | ⟨long, first, more, bytes, large⟩
      · rw [bytes, List.head?_cons, Option.some_inj]
        refine ⟨fun same => ?_, congrArg Char.toUInt8⟩
        have codes := congrArg UInt8.toNat same
        rw [toNat_toUInt8 single, toNat_toUInt8 ascii] at codes
        exact Char.toNat_inj.1 codes
      · rw [bytes, List.head?_cons, Option.some_inj]
        constructor
        · rintro rfl
          rw [toNat_toUInt8 ascii] at large
          exact absurd ascii (Nat.not_lt.2 large)
        · rintro rfl
          exact absurd ascii (Nat.not_lt.2 long)

theorem isDigit_iff (c : Char) : c.isDigit = true ↔ 48 ≤ c.toNat ∧ c.toNat ≤ 57 := by
  simp [Char.isDigit, UInt32.le_iff_toNat_le]

theorem toNat_lt_of_isDigit {c : Char} (digit : c.isDigit = true) : c.toNat < 128 :=
  Nat.lt_of_le_of_lt ((isDigit_iff c).1 digit).2 (by decide)

theorem isDigitByte_toUInt8 {c : Char} (ascii : c.toNat < 128) :
    Bytes.isDigitByte c.toUInt8 = c.isDigit := by
  rw [Bool.eq_iff_iff, isDigit_iff, Bytes.isDigitByte, toNat_toUInt8 ascii]
  simp

/-- The first byte is a digit where the first character is one. -/
theorem any_head?_encode (text : List Char) :
    (encode text).head?.any Bytes.isDigitByte = text.head?.any Char.isDigit := by
  cases text with
  | nil => rfl
  | cons c text =>
      rcases encode_cons c text with ⟨single, bytes⟩ | ⟨long, first, more, bytes, large⟩
      · rw [bytes]
        exact isDigitByte_toUInt8 single
      · rw [bytes]
        have noByte : Bytes.isDigitByte first = false := by
          simp only [Bytes.isDigitByte, Bool.and_eq_false_iff, decide_eq_false_iff_not]
          omega
        have noDigit : c.isDigit = false := by
          rw [Bool.eq_false_iff]
          exact fun digit => absurd (toNat_lt_of_isDigit digit) (Nat.not_lt.2 long)
        simp [noByte, noDigit]

/-- Where digits stand behind a mark, the text goes on with the mark and with them. -/
theorem exists_of_markedDigits {mark : Char} {text : List Char}
    (some : (markedDigits mark text).1 ≠ []) :
    ∃ rest, text = mark :: rest ∧ markedDigits mark text = digitRun rest := by
  unfold markedDigits at some ⊢
  cases text with
  | nil => exact absurd rfl some
  | cons c rest =>
      simp only at some ⊢
      split at some
      · next both => exact ⟨rest, by rw [both.1], if_pos both⟩
      · exact absurd rfl some

end Text

/-! ## Places among bytes -/

/-- From an index on, the bytes are those of a text. -/
def Text.StandsAt (bytes : List UInt8) (index : Nat) (text : List Char) : Prop :=
  ∃ front, bytes = front ++ Text.encode text ∧ front.length = index

open Bytes

namespace Bytes

variable {bytes : List UInt8} {index : Nat}

theorem digitsEnd_of_digit (digit : (bytes[index]?).any isDigitByte = true) :
    digitsEnd bytes index = digitsEnd bytes (index + 1) := by
  rw [digitsEnd]
  split
  · next byte here =>
    rw [here, Option.any_some] at digit
    rw [if_pos digit]
  · next here =>
    rw [here] at digit
    cases digit

theorem digitsEnd_of_other (other : (bytes[index]?).any isDigitByte = false) :
    digitsEnd bytes index = index := by
  rw [digitsEnd]
  split
  · next byte here =>
    rw [here, Option.any_some] at other
    rw [other]
    rfl
  · rfl

end Bytes

namespace Text.StandsAt

variable {bytes : List UInt8} {index stop : Nat} {text digits : List Char} {c : Char}

theorem getElem? (stands : StandsAt bytes index text) : bytes[index]? = (encode text).head? := by
  obtain ⟨front, rfl, rfl⟩ := stands
  rw [List.getElem?_append_right (Nat.le_refl _), Nat.sub_self, List.head?_eq_getElem?]

/-- There is one index only from which on the bytes are those of a text. -/
theorem index_unique (stands : StandsAt bytes index text) (stands' : StandsAt bytes stop text) :
    index = stop := by
  obtain ⟨front, split, rfl⟩ := stands
  obtain ⟨front', split', rfl⟩ := stands'
  exact congrArg List.length (List.append_cancel_right (split.symm.trans split'))

theorem mark_iff (stands : StandsAt bytes index text) (mark : Char) (ascii : mark.toNat < 128) :
    bytes[index]? = some mark.toUInt8 ↔ text.head? = some mark := by
  rw [stands.getElem?, head?_encode_eq ascii]

theorem any_isDigitByte (stands : StandsAt bytes index text) :
    (bytes[index]?).any isDigitByte = text.head?.any Char.isDigit := by
  rw [stands.getElem?, any_head?_encode]

theorem tail (stands : StandsAt bytes index (c :: text)) (ascii : c.toNat < 128) :
    StandsAt bytes (index + 1) text := by
  obtain ⟨front, rfl, rfl⟩ := stands
  rcases encode_cons c text with ⟨_, single⟩ | ⟨long, _⟩
  · exact ⟨front ++ [c.toUInt8], by rw [single, List.append_assoc, List.singleton_append],
      List.length_append⟩
  · exact absurd ascii (Nat.not_lt.2 long)

theorem append (stands : StandsAt bytes index (digits ++ text)) (all : AllDigits digits) :
    StandsAt bytes (index + digits.length) text := by
  induction digits generalizing index with
  | nil => exact stands
  | cons c digits ih =>
      obtain ⟨first, others⟩ := List.forall_mem_cons.1 all
      have next := ih (stands.tail (toNat_lt_of_isDigit first)) others
      rwa [List.length_cons, Nat.add_comm digits.length, ← Nat.add_assoc]

/-- Counting byte by byte ends behind the digits. -/
theorem digitsEnd_eq (stands : StandsAt bytes index text) :
    digitsEnd bytes index = index + (digitRun text).1.length := by
  induction text generalizing index with
  | nil => exact digitsEnd_of_other stands.any_isDigitByte
  | cons c text ih =>
      have first := stands.any_isDigitByte
      rw [List.head?_cons, Option.any_some] at first
      cases digit : c.isDigit with
      | false =>
          rw [digitsEnd_of_other (first.trans digit), digitRun, List.takeWhile_cons, digit]
          rfl
      | true =>
          have longer : (digitRun (c :: text)).1.length = (digitRun text).1.length + 1 := by
            rw [digitRun, List.takeWhile_cons_of_pos digit]
            rfl
          rw [digitsEnd_of_digit (first.trans digit), ih (stands.tail (toNat_lt_of_isDigit digit)),
            longer, Nat.add_right_comm, Nat.add_assoc]

theorem stands_digitsEnd (stands : StandsAt bytes index text) :
    StandsAt bytes (digitsEnd bytes index) (digitRun text).2 := by
  rw [stands.digitsEnd_eq]
  refine StandsAt.append ?_ (allDigits_digitRun text)
  rwa [digitRun_split]

theorem encode_digits (all : AllDigits digits) : encode digits = digits.map Char.toUInt8 := by
  induction digits with
  | nil => rfl
  | cons c digits ih =>
      obtain ⟨first, others⟩ := List.forall_mem_cons.1 all
      rcases encode_cons c digits with ⟨_, single⟩ | ⟨long, _⟩
      · rw [single, ih others, List.map_cons]
      · exact absurd (toNat_lt_of_isDigit first) (Nat.not_lt.2 long)

theorem mapM_digit? (all : AllDigits digits) :
    (digits.map Char.toUInt8).mapM digit? = some digits := by
  induction digits with
  | nil => rfl
  | cons c digits ih =>
      obtain ⟨first, others⟩ := List.forall_mem_cons.1 all
      have ascii := toNat_lt_of_isDigit first
      have same : digit? c.toUInt8 = some c := by
        rw [digit?, if_pos ((isDigitByte_toUInt8 ascii).trans first), toNat_toUInt8 ascii,
          Char.ofNat_toNat]
      rw [List.map_cons, List.mapM_cons, same, ih others]
      rfl

/-- The digits that a text begins with are a range of bytes. -/
theorem digitsIn?_eq (stands : StandsAt bytes index (digits ++ text)) (all : AllDigits digits) :
    digitsIn? bytes index (index + digits.length) = some digits := by
  obtain ⟨front, rfl, rfl⟩ := stands
  have length : (encode digits).length = digits.length := by
    rw [encode_digits all, List.length_map]
  have inside : front.length + digits.length ≤ (front ++ encode (digits ++ text)).length := by
    rw [encode_append, List.length_append, List.length_append, length]
    exact Nat.add_le_add_left (Nat.le_add_right _ _) _
  have range : range? (front ++ encode (digits ++ text)) front.length
      (front.length + digits.length) = some (encode digits) := by
    rw [range?, if_pos ⟨Nat.le_add_right _ _, inside⟩, List.drop_left, Nat.add_sub_cancel_left,
      encode_append, ← length, List.take_left]
  rw [digitsIn?, range, encode_digits all]
  exact mapM_digit? all

theorem digitsIn?_digitsEnd (stands : StandsAt bytes index text) :
    digitsIn? bytes index (digitsEnd bytes index) = some (digitRun text).1 := by
  rw [stands.digitsEnd_eq]
  have split : StandsAt bytes index ((digitRun text).1 ++ (digitRun text).2) := by
    rwa [digitRun_split]
  exact digitsIn?_eq split (allDigits_digitRun text)

/-- A mark with digits after it is found with its end, and its digits can be cut out. -/
theorem exists_markedEnd? (stands : StandsAt bytes index text) (mark : Char)
    (ascii : mark.toNat < 128) :
    ∃ stop, markedEnd? bytes mark index = some stop ∧
      (stop = index ↔ (markedDigits mark text).1 = []) ∧
      StandsAt bytes stop (markedDigits mark text).2 ∧
      markedDigitsIn? bytes index stop = some (markedDigits mark text).1 := by
  unfold markedEnd?
  split
  · next isMark =>
    obtain ⟨rest, rfl⟩ := List.head?_eq_some_iff.1 ((stands.mark_iff mark ascii).1 isMark)
    have behind := stands.tail ascii
    have width : difference? (digitsEnd bytes (index + 1)) (index + 1) =
        some (digitRun rest).1.length := by
      rw [behind.digitsEnd_eq, difference?, if_pos (Nat.le_add_right _ _), Nat.add_sub_cancel_left]
    simp only [width, markedDigits, true_and]
    by_cases none : (digitRun rest).1 = []
    · exact ⟨index, by simp [none], by simp [none], by simpa [none] using stands,
        by simp [none, markedDigitsIn?]⟩
    · have some : 0 < (digitRun rest).1.length := List.length_pos_iff.2 none
      have later : digitsEnd bytes (index + 1) ≠ index := by
        rw [behind.digitsEnd_eq]
        omega
      refine ⟨digitsEnd bytes (index + 1), by simp [none], by simp [none, later], ?_, ?_⟩
      · rw [if_pos none]
        exact behind.stands_digitsEnd
      · rw [if_pos none, markedDigitsIn?, if_neg later, behind.digitsIn?_digitsEnd]
  · next other =>
    have absent : markedDigits mark text = ([], text) := by
      refine markedDigits_of_ne fun c more split same => other ((stands.mark_iff mark ascii).2 ?_)
      rw [split, same, List.head?_cons]
    rw [absent]
    exact ⟨index, rfl, by simp, stands, if_pos rfl⟩

/-- A mark and a digit are the next two bytes where a mark with digits after it is read. -/
theorem mark_digit_iff {mark : Char} (stands : StandsAt bytes index text)
    (ascii : mark.toNat < 128) :
    (bytes[index]? = some mark.toUInt8 ∧ (bytes[index + 1]?).any isDigitByte = true) ↔
      (markedDigits mark text).1 ≠ [] := by
  constructor
  · rintro ⟨isMark, digit⟩
    obtain ⟨rest, rfl⟩ := List.head?_eq_some_iff.1 ((stands.mark_iff mark ascii).1 isMark)
    rw [(stands.tail ascii).any_isDigitByte] at digit
    cases rest with
    | nil => cases digit
    | cons c rest =>
        have some := digitRun_cons_ne_nil (c := c) digit rest
        rw [markedDigits, if_pos ⟨rfl, some⟩]
        exact some
  · intro some
    obtain ⟨rest, rfl, isRun⟩ := exists_of_markedDigits some
    refine ⟨(stands.mark_iff mark ascii).2 rfl, ?_⟩
    rw [(stands.tail ascii).any_isDigitByte]
    rw [isRun] at some
    cases rest with
    | nil => exact absurd rfl some
    | cons c rest =>
        rw [List.head?_cons, Option.any_some]
        by_contra other
        exact some (by rw [digitRun, List.takeWhile_cons_of_neg other])

end Text.StandsAt

/-! ## Spans and points in time -/

namespace Bytes

open Text (StandsAt)

variable {bytes : List UInt8} {start : Nat} {text rest : List Char} {allowDays : Bool}

/-- The point behind the days of a span that starts at a byte.  Digits and a colon have to come
after it. -/
def daysEnd? (bytes : List UInt8) (start : Nat) : Option Nat :=
  let point := digitsEnd bytes start
  let hoursEnd := digitsEnd bytes (point + 1)
  if bytes[point]? = some '.'.toUInt8 ∧ point + 1 < hoursEnd ∧
      bytes[hoursEnd]? = some ':'.toUInt8 then some point
  else none

/-- The byte behind the fraction of a span.  It counts only after seconds. -/
def fractionEnd? (bytes : List UInt8) (minutesEnd secondsEnd : Nat) : Option Nat :=
  if secondsEnd = minutesEnd then some secondsEnd else markedEnd? bytes '.' secondsEnd

/-- The digits of a span that starts at a byte, and the byte behind it. -/
def span? (bytes : List UInt8) (allowDays : Bool) (start : Nat) :
    Option (Option (SpanNotation × Nat)) :=
  if digitsEnd bytes start = start then some none
  else do
    let point? := if allowDays then daysEnd? bytes start else none
    let hoursStart := (point?.map (· + 1)).getD start
    let hoursEnd := digitsEnd bytes hoursStart
    let minutesEnd ← markedEnd? bytes ':' hoursEnd
    let secondsEnd ← markedEnd? bytes ':' minutesEnd
    let stop ← fractionEnd? bytes minutesEnd secondsEnd
    if minutesEnd = hoursEnd ∨ (point?.isSome ∧ secondsEnd = minutesEnd) then return none
    let days ← (point?.map (digitsIn? bytes start ·)).getD (some [])
    let hours ← digitsIn? bytes hoursStart hoursEnd
    let minutes ← markedDigitsIn? bytes hoursEnd minutesEnd
    let seconds ← markedDigitsIn? bytes minutesEnd secondsEnd
    let fraction ← markedDigitsIn? bytes secondsEnd stop
    return some (⟨days, hours, minutes, seconds, fraction⟩, stop)

/-- The byte behind so many digits with a mark after them, or with anything after them. -/
def digitsOfLength? (bytes : List UInt8) (length : Nat) (mark? : Option Char) (start : Nat) :
    Option (Option Nat) := do
  let stop := digitsEnd bytes start
  let width ← difference? stop start
  return if width = length ∧ mark?.all (bytes[stop]? = some ·.toUInt8) then some stop else none

/-- The digits of a date that starts at a byte, and the byte behind it. -/
def date? (bytes : List UInt8) (start : Nat) : Option (Option (PointNotation × Nat)) := do
  let some yearEnd ← digitsOfLength? bytes 4 '-' start | return none
  let some monthEnd ← digitsOfLength? bytes 2 '-' (yearEnd + 1) | return none
  let some dayEnd ← digitsOfLength? bytes 2 none (monthEnd + 1) | return none
  let year ← digitsIn? bytes start yearEnd
  let month ← digitsIn? bytes (yearEnd + 1) monthEnd
  let day ← digitsIn? bytes (monthEnd + 1) dayEnd
  return some (⟨year, month, day, none⟩, dayEnd)

/-- The digits of a point in time that starts at a byte, and the byte behind it. -/
def point? (bytes : List UInt8) (start : Nat) : Option (Option (PointNotation × Nat)) := do
  let some (date, dayEnd) ← date? bytes start | return none
  if bytes[dayEnd]? ≠ some ' '.toUInt8 then return some (date, dayEnd)
  match ← span? bytes false (dayEnd + 1) with
  | some (clock, stop) => return some ({ date with clock := some clock }, stop)
  | none => return some (date, dayEnd)

/-- Days are found where they are read, and the hours stand behind their point. -/
theorem daysEnd?_cases (stands : StandsAt bytes start text) (digits : (digitRun text).1 ≠ []) :
    (daysEnd? bytes start = none ∧ SpanNotation.readDays text = ([], text)) ∨
    ∃ point, daysEnd? bytes start = some point ∧
      digitsIn? bytes start point = some (SpanNotation.readDays text).1 ∧
      (SpanNotation.readDays text).1 ≠ [] ∧
      StandsAt bytes (point + 1) (SpanNotation.readDays text).2 ∧
      (digitRun (SpanNotation.readDays text).2).1 ≠ [] := by
  have behind := stands.stands_digitsEnd
  by_cases isPoint : bytes[digitsEnd bytes start]? = some '.'.toUInt8
  · obtain ⟨rest, split⟩ := List.head?_eq_some_iff.1 ((behind.mark_iff '.' (by decide)).1 isPoint)
    rw [split] at behind
    have hours := behind.tail (by decide)
    have some : digitsEnd bytes start + 1 < digitsEnd bytes (digitsEnd bytes start + 1) ↔
        (digitRun rest).1 ≠ [] := by
      rw [hours.digitsEnd_eq, Nat.lt_add_right_iff_pos, List.length_pos_iff]
    have colon := hours.stands_digitsEnd.mark_iff ':' (by decide)
    simp only [daysEnd?, SpanNotation.readDays, split, isPoint, some, colon, digits, true_and,
      ne_eq, not_false_eq_true]
    split
    · next both =>
      exact .inr ⟨_, rfl, stands.digitsIn?_digitsEnd, digits, hours, both.1⟩
    · exact .inl ⟨rfl, rfl⟩
  · have absent : daysEnd? bytes start = none := if_neg fun both => isPoint both.1
    refine .inl ⟨absent, ?_⟩
    unfold SpanNotation.readDays
    simp only
    split
    · next rest split =>
      exact absurd ((behind.mark_iff '.' (by decide)).2 (by rw [split, List.head?_cons])) isPoint
    · rfl

/-- What a span may begin with, its days, is found where it is read.  Digits for the hours stand
behind it. -/
theorem exists_days (allowDays : Bool) (stands : StandsAt bytes start text)
    (digits : (digitRun text).1 ≠ []) :
    ∃ point?, (if allowDays then daysEnd? bytes start else none) = point? ∧
      (point?.map (digitsIn? bytes start ·)).getD (some []) =
        some (if allowDays then SpanNotation.readDays text else ([], text)).1 ∧
      (point?.isSome ↔ (if allowDays then SpanNotation.readDays text else ([], text)).1 ≠ []) ∧
      StandsAt bytes ((point?.map (· + 1)).getD start)
        (if allowDays then SpanNotation.readDays text else ([], text)).2 ∧
      (digitRun (if allowDays then SpanNotation.readDays text else ([], text)).2).1 ≠ [] := by
  cases allowDays with
  | false => exact ⟨none, rfl, rfl, by simp, stands, digits⟩
  | true =>
      rcases daysEnd?_cases stands digits with ⟨absent, reads⟩ | ⟨point, found, cut, some, rest⟩
      · simp only [if_true, reads]
        exact ⟨none, absent, rfl, by simp, stands, digits⟩
      · exact ⟨point, found, cut, by simp [some], rest⟩

/-- A span is found where it is read, with the byte behind it. -/
theorem span?_cases (allowDays : Bool) (stands : StandsAt bytes start text) :
    (SpanNotation.read? allowDays text = none ∧ span? bytes allowDays start = some none) ∨
    ∃ span rest stop, SpanNotation.read? allowDays text = some (span, rest) ∧
      span? bytes allowDays start = some (some (span, stop)) ∧ StandsAt bytes stop rest := by
  simp only [SpanNotation.read?]
  unfold span?
  by_cases empty : (digitRun text).1 = []
  · have same : digitsEnd bytes start = start := by
      rw [stands.digitsEnd_eq, empty, List.length_nil, Nat.add_zero]
    have undated : (if allowDays then SpanNotation.readDays text else ([], text)) = ([], text) := by
      have reads : SpanNotation.readDays text = ([], text) := by
        simp only [SpanNotation.readDays, empty, ne_eq, not_true_eq_false, false_and, if_false]
        split <;> rfl
      rw [reads, ite_self]
    rw [if_pos same, undated]
    exact .inl ⟨by simp [empty], rfl⟩
  · have other : digitsEnd bytes start ≠ start := by
      rw [stands.digitsEnd_eq]
      exact fun same => empty (List.length_eq_zero_iff.1 (Nat.add_eq_left.1 same))
    obtain ⟨point?, isPoint, cutDays, dated, hours, written⟩ := exists_days allowDays stands empty
    generalize (if allowDays then SpanNotation.readDays text else ([], text)) = days at *
    have afterHours := hours.stands_digitsEnd
    obtain ⟨minutesEnd, foundMinutes, noMinutes, afterMinutes, cutMinutes⟩ :=
      afterHours.exists_markedEnd? ':' (by decide)
    generalize markedDigits ':' (digitRun days.2).2 = minutes at *
    obtain ⟨secondsEnd, foundSeconds, noSeconds, afterSeconds, cutSeconds⟩ :=
      afterMinutes.exists_markedEnd? ':' (by decide)
    generalize markedDigits ':' minutes.2 = seconds at *
    obtain ⟨stop, foundFraction, afterFraction, cutFraction⟩ :
        ∃ stop, fractionEnd? bytes minutesEnd secondsEnd = some stop ∧
          StandsAt bytes stop (if seconds.1 = [] then ([], seconds.2) else
            markedDigits '.' seconds.2).2 ∧
          markedDigitsIn? bytes secondsEnd stop = some (if seconds.1 = [] then ([], seconds.2) else
            markedDigits '.' seconds.2).1 := by
      unfold fractionEnd?
      by_cases none : seconds.1 = []
      · rw [if_pos (noSeconds.2 none), if_pos none]
        exact ⟨secondsEnd, rfl, afterSeconds, if_pos rfl⟩
      · rw [if_neg (noSeconds.not.2 none), if_neg none]
        obtain ⟨stop, found, _, after, cut⟩ := afterSeconds.exists_markedEnd? '.' (by decide)
        exact ⟨stop, found, after, cut⟩
    simp only [if_neg other, isPoint, foundMinutes, foundSeconds, foundFraction,
      Option.bind_eq_bind, Option.bind_some, noMinutes, noSeconds, dated, cutDays,
      hours.digitsIn?_digitsEnd, cutMinutes, cutSeconds, cutFraction, written, false_or]
    by_cases shapeless : minutes.1 = [] ∨ days.1 ≠ [] ∧ seconds.1 = []
    · rw [if_pos shapeless, if_pos shapeless]
      exact .inl ⟨rfl, rfl⟩
    · rw [if_neg shapeless, if_neg shapeless]
      exact .inr ⟨_, _, stop, rfl, rfl, afterFraction⟩

theorem markedDigits_of_length {mark : Char} {length : Nat} (positive : 0 < length)
    (exact : (digitRun rest).1.length = length) :
    markedDigits mark (mark :: rest) = digitRun rest :=
  if_pos ⟨rfl, List.length_pos_iff.1 (exact ▸ positive)⟩

theorem digitsOfLength?_eq (stands : StandsAt bytes start text) (length : Nat)
    {mark? : Option Char} (ascii : ∀ mark ∈ mark?, mark.toNat < 128) :
    digitsOfLength? bytes length mark? start =
      some (if (digitRun text).1.length = length ∧
          mark?.all (fun mark => (digitRun text).2.head? = some mark) then
        some (digitsEnd bytes start) else none) := by
  have width : difference? (digitsEnd bytes start) start = some (digitRun text).1.length := by
    rw [stands.digitsEnd_eq, difference?, if_pos (Nat.le_add_right _ _), Nat.add_sub_cancel_left]
  have goesOn : mark?.all (fun mark => bytes[digitsEnd bytes start]? = some mark.toUInt8) =
      mark?.all (fun mark => (digitRun text).2.head? = some mark) := by
    cases mark? with
    | none => rfl
    | some mark =>
        simp only [Option.all_some, stands.stands_digitsEnd.mark_iff mark (ascii mark rfl)]
  simp only [digitsOfLength?, width, goesOn, Option.bind_eq_bind, Option.bind_some]
  rfl

/-- Three runs of digits of the right lengths are a date where dashes stand between them. -/
theorem lengths_iff :
    ((digitRun text).1.length = 4 ∧ (markedDigits '-' (digitRun text).2).1.length = 2 ∧
      (markedDigits '-' (markedDigits '-' (digitRun text).2).2).1.length = 2) ↔
    ∃ afterYear afterMonth, (digitRun text).1.length = 4 ∧ (digitRun text).2 = '-' :: afterYear ∧
      (digitRun afterYear).1.length = 2 ∧ (digitRun afterYear).2 = '-' :: afterMonth ∧
      (digitRun afterMonth).1.length = 2 := by
  have two : 0 < 2 := by decide
  constructor
  · rintro ⟨year, month, day⟩
    obtain ⟨afterYear, splitYear, isMonth⟩ :=
      Text.exists_of_markedDigits (List.length_pos_iff.1 (month ▸ two))
    rw [isMonth] at month day
    obtain ⟨afterMonth, splitMonth, isDay⟩ :=
      Text.exists_of_markedDigits (List.length_pos_iff.1 (day ▸ two))
    exact ⟨afterYear, afterMonth, year, splitYear, month, splitMonth, isDay ▸ day⟩
  · rintro ⟨afterYear, afterMonth, year, splitYear, month, splitMonth, day⟩
    rw [splitYear, markedDigits_of_length two month, splitMonth, markedDigits_of_length two day]
    exact ⟨year, month, day⟩

/-- A date is found where three runs of digits have the right lengths, with the byte behind it. -/
theorem date?_cases (stands : StandsAt bytes start text) :
    let year := digitRun text
    let month := markedDigits '-' year.2
    let day := markedDigits '-' month.2
    (¬ (year.1.length = 4 ∧ month.1.length = 2 ∧ day.1.length = 2) ∧
      date? bytes start = some none) ∨
    (year.1.length = 4 ∧ month.1.length = 2 ∧ day.1.length = 2) ∧
      ∃ dayEnd, date? bytes start = some (some (⟨year.1, month.1, day.1, none⟩, dayEnd)) ∧
        StandsAt bytes dayEnd day.2 := by
  intro year month day
  have dash : ∀ mark ∈ some '-', mark.toNat < 128 := by simp
  have anything : ∀ mark ∈ (none : Option Char), mark.toNat < 128 := nofun
  have two : 0 < 2 := by decide
  have yearEnd := digitsOfLength?_eq stands 4 dash
  unfold date?
  by_cases hasYear : (digitRun text).1.length = 4 ∧ (digitRun text).2.head? = some '-'
  · obtain ⟨afterYear, splitYear⟩ := List.head?_eq_some_iff.1 hasYear.2
    have monthAt := (splitYear ▸ stands.stands_digitsEnd).tail (by decide)
    have monthEnd := digitsOfLength?_eq monthAt 2 dash
    rw [if_pos (by simpa using hasYear)] at yearEnd
    simp only [yearEnd, Option.bind_eq_bind, Option.bind_some]
    by_cases hasMonth : (digitRun afterYear).1.length = 2 ∧ (digitRun afterYear).2.head? = some '-'
    · obtain ⟨afterMonth, splitMonth⟩ := List.head?_eq_some_iff.1 hasMonth.2
      have dayAt := (splitMonth ▸ monthAt.stands_digitsEnd).tail (by decide)
      have dayEnd := digitsOfLength?_eq dayAt 2 anything
      rw [if_pos (by simpa using hasMonth)] at monthEnd
      simp only [monthEnd, Option.bind_some]
      by_cases hasDay : (digitRun afterMonth).1.length = 2
      · have lengths := lengths_iff.2
          ⟨afterYear, afterMonth, hasYear.1, splitYear, hasMonth.1, splitMonth, hasDay⟩
        have isMonth : month = digitRun afterYear := by
          simp only [month, year, splitYear, markedDigits_of_length two hasMonth.1]
        have isDay : day = digitRun afterMonth := by
          simp only [day, isMonth, splitMonth, markedDigits_of_length two hasDay]
        rw [if_pos (by simpa using hasDay)] at dayEnd
        simp only [dayEnd, Option.bind_some, stands.digitsIn?_digitsEnd,
          monthAt.digitsIn?_digitsEnd, dayAt.digitsIn?_digitsEnd, isMonth, isDay]
        refine .inr ⟨?_, _, rfl, dayAt.stands_digitsEnd⟩
        exact ⟨hasYear.1, hasMonth.1, hasDay⟩
      · rw [if_neg (by simpa using hasDay)] at dayEnd
        refine .inl ⟨fun both => ?_, by rw [dayEnd]; rfl⟩
        obtain ⟨_, _, _, splitYear', _, splitMonth', twoDigits⟩ := lengths_iff.1 both
        obtain rfl := List.tail_eq_of_cons_eq (splitYear.symm.trans splitYear')
        obtain rfl := List.tail_eq_of_cons_eq (splitMonth.symm.trans splitMonth')
        exact hasDay twoDigits
    · rw [if_neg (by simpa using hasMonth)] at monthEnd
      refine .inl ⟨fun both => ?_, by rw [monthEnd]; rfl⟩
      obtain ⟨_, _, _, splitYear', twoDigits, splitMonth', _⟩ := lengths_iff.1 both
      obtain rfl := List.tail_eq_of_cons_eq (splitYear.symm.trans splitYear')
      exact hasMonth ⟨twoDigits, by rw [splitMonth', List.head?_cons]⟩
  · rw [if_neg (by simpa using hasYear)] at yearEnd
    refine .inl ⟨fun both => ?_, by rw [yearEnd]; rfl⟩
    obtain ⟨afterYear, afterMonth, fourDigits, splitYear, _⟩ := lengths_iff.1 both
    exact hasYear ⟨fourDigits, by rw [splitYear, List.head?_cons]⟩

/-- A point in time is found where it is read, with the byte behind it. -/
theorem point?_cases (stands : StandsAt bytes start text) :
    (PointNotation.read? text = none ∧ point? bytes start = some none) ∨
    ∃ point rest stop, PointNotation.read? text = some (point, rest) ∧
      point? bytes start = some (some (point, stop)) ∧ StandsAt bytes stop rest := by
  simp only [PointNotation.read?]
  unfold point?
  rcases date?_cases stands with ⟨shapeless, absent⟩ | ⟨lengths, dayEnd, found, clockAt⟩
  · rw [if_neg shapeless, absent]
    exact .inl ⟨rfl, rfl⟩
  · rw [if_pos lengths, found]
    simp only [Option.bind_eq_bind, Option.bind_some]
    generalize (digitRun text) = year at *
    generalize markedDigits '-' year.2 = month at *
    generalize markedDigits '-' month.2 = day at *
    by_cases blank : bytes[dayEnd]? = some ' '.toUInt8
    · obtain ⟨clock, split⟩ := List.head?_eq_some_iff.1 ((clockAt.mark_iff ' ' (by decide)).1 blank)
      rw [split] at clockAt ⊢
      rw [if_neg (not_not.2 blank)]
      rcases span?_cases false (clockAt.tail (by decide)) with
        ⟨unread, absent⟩ | ⟨span, rest, stop, reads, found, behind⟩
      · rw [absent]
        simp only [unread]
        exact .inr ⟨_, _, _, rfl, rfl, clockAt⟩
      · rw [found]
        simp only [reads]
        exact .inr ⟨_, _, _, rfl, rfl, behind⟩
    · rw [if_pos blank]
      refine .inr ⟨_, _, _, ?_, rfl, clockAt⟩
      split
      · next clock split =>
        exact absurd ((clockAt.mark_iff ' ' (by decide)).2 (by rw [split, List.head?_cons])) blank
      · rfl

end Bytes

end RecordQuery
