import RecordQuery.Text.Blank
import RecordQuery.Time.Fields
import RecordQuery.Time.Notation

/-!
# Reading dates and times by a format

A format is a text of directives, each a `%` with a letter, between literal text and
blanks.  Reading goes through text and format together: literal text has to appear
as it is, blanks in the format pass over any blanks of the text, and a directive
reads a number or a name and stores it in the fields of the point in time.  The
first thing that does not fit ends the reading with its fault; a directive that does
not exist is a fault only when the reading comes to it.
-/

set_option autoImplicit false

namespace RecordQuery

open Text (digitsValue)

/-- The numbers that a directive can read. -/
inductive NumberDirective where
  | year | century | yearOfCentury
  | weekYear | weekYearOfCentury
  | quarter | month | day | ordinal
  | weekFromSunday | weekFromMonday | week | weekdayFromSunday | weekdayFromMonday
  | hour | hour12 | minute | second | nanosecond | epochSeconds
deriving DecidableEq, Repr

/-- One step of a format. -/
inductive FormatItem where
  /-- This text, as it is. -/
  | literal (text : List Char)
  /-- Any number of blanks. -/
  | blanks
  | number (directive : NumberDirective)
  /-- The name of a month, in three letters, or in full where `full` allows it. -/
  | monthName (full : Bool)
  /-- The name of a weekday, in three letters, or in full where `full` allows it. -/
  | weekdayName (full : Bool)
  /-- `am` or `pm`. -/
  | halfDay
  /-- A point and the digits of a fraction, or nothing. -/
  | fraction
  /-- A point and so many digits of a fraction, or nothing. -/
  | fractionOf (digits : Nat)
  /-- So many digits of a fraction. -/
  | bareFractionOf (digits : Nat)
  /-- The name of a time zone: anything up to a blank. -/
  | zoneName
  /-- The distance of a time zone; `relaxed` allows `Z` and leaving the minutes out. -/
  | zoneOffset (relaxed : Bool)
  /-- A whole date and time with a time zone, in the usual notation. -/
  | timestamp
  /-- No directive. -/
  | bad
deriving DecidableEq, Repr

namespace FormatItem

/-- Hours, minutes and seconds with colons between. -/
def clock : List FormatItem :=
  [.number .hour, .literal [':'], .number .minute, .literal [':'], .number .second]

/-- Month, day and year of the century with strokes between. -/
def shortDate : List FormatItem :=
  [.number .month, .literal ['/'], .number .day, .literal ['/'], .number .yearOfCentury]

/-- Year, month and day with dashes between. -/
def longDate : List FormatItem :=
  [.number .year, .literal ['-'], .number .month, .literal ['-'], .number .day]

/-- What the directive of one letter stands for. -/
def ofLetter : Char → List FormatItem
  | 'A' => [.weekdayName true]
  | 'B' => [.monthName true]
  | 'C' => [.number .century]
  | 'D' | 'x' => shortDate
  | 'F' => longDate
  | 'G' => [.number .weekYear]
  | 'H' | 'k' => [.number .hour]
  | 'I' | 'l' => [.number .hour12]
  | 'M' => [.number .minute]
  | 'P' | 'p' => [.halfDay]
  | 'R' => [.number .hour, .literal [':'], .number .minute]
  | 'S' => [.number .second]
  | 'T' | 'X' => clock
  | 'U' => [.number .weekFromSunday]
  | 'V' => [.number .week]
  | 'W' => [.number .weekFromMonday]
  | 'Y' => [.number .year]
  | 'Z' => [.zoneName]
  | 'a' => [.weekdayName false]
  | 'b' | 'h' => [.monthName false]
  | 'c' =>
    [.weekdayName false, .blanks, .monthName false, .blanks, .number .day, .blanks] ++ clock ++
      [.blanks, .number .year]
  | 'd' | 'e' => [.number .day]
  | 'f' => [.number .nanosecond]
  | 'g' => [.number .weekYearOfCentury]
  | 'j' => [.number .ordinal]
  | 'm' => [.number .month]
  | 'n' | 't' => [.blanks]
  | 'q' => [.number .quarter]
  | 'r' =>
    [.number .hour12, .literal [':'], .number .minute, .literal [':'], .number .second, .blanks,
      .halfDay]
  | 's' => [.number .epochSeconds]
  | 'u' => [.number .weekdayFromMonday]
  | 'v' => [.number .day, .literal ['-'], .monthName false, .literal ['-'], .number .year]
  | 'w' => [.number .weekdayFromSunday]
  | 'y' => [.number .yearOfCentury]
  | 'z' => [.zoneOffset false]
  | '+' => [.timestamp]
  | '%' => [.literal ['%']]
  | _ => [.bad]

/-- A padding mark may stand before a directive that is a single number; it does not
change what is read. -/
def padded : List FormatItem → List FormatItem
  | [.number directive] => [.number directive]
  | _ => [.bad]

/-- The number of digits that the digit of a fraction directive asks for. -/
def fractionDigits? : Char → Option Nat
  | '3' => some 3
  | '6' => some 6
  | '9' => some 9
  | _ => none

/-- The directive that follows a `%`, and the rest of the format.  A format that ends
too early has no directive there. -/
def directive : List Char → List FormatItem × List Char
  | '#' :: 'z' :: rest => ([.zoneOffset true], rest)
  | '.' :: 'f' :: rest => ([.fraction], rest)
  | '.' :: c :: 'f' :: rest =>
    match fractionDigits? c with
    | some digits => ([.fractionOf digits], rest)
    | none => ([.bad], rest)
  | '.' :: _ => ([.bad], [])
  | ':' :: 'z' :: rest => ([.zoneOffset false], rest)
  | ':' :: ':' :: 'z' :: rest => ([.zoneOffset false], rest)
  | ':' :: ':' :: ':' :: 'z' :: rest => ([.zoneOffset false], rest)
  | c :: rest =>
    if c = '-' ∨ c = '0' ∨ c = '_' then
      match rest with
      | letter :: rest => (padded (ofLetter letter), rest)
      | [] => ([.bad], [])
    else
      match fractionDigits? c, rest with
      | some digits, 'f' :: rest => ([.bareFractionOf digits], rest)
      | _, _ => (ofLetter c, rest)
  | [] => ([.bad], [])

theorem directive_length_le (text : List Char) : (directive text).2.length ≤ text.length := by
  unfold directive
  repeat' split
  all_goals simp_all <;> omega

/-- The steps of a format.  Literal text is taken together up to the next `%` or blank. -/
def ofChars : List Char → List FormatItem
  | [] => []
  | c :: text =>
    if c = '%' then
      (directive text).1 ++ ofChars (directive text).2
    else if Text.isBlank c then
      .blanks :: ofChars (text.dropWhile Text.isBlank)
    else
      let isPlain (c : Char) : Bool := c != '%' && !Text.isBlank c
      .literal (c :: text.takeWhile isPlain) :: ofChars (text.dropWhile isPlain)
termination_by text => text.length
decreasing_by
  · exact Nat.lt_succ_of_le (directive_length_le text)
  · exact Nat.lt_succ_of_le (List.dropWhile_sublist _).length_le
  · exact Nat.lt_succ_of_le (List.dropWhile_sublist _).length_le

end FormatItem

namespace NumberDirective

/-- The greatest number of digits of a number without a sign. -/
def width : NumberDirective → Option Nat
  | .year | .weekYear => some 4
  | .quarter | .weekdayFromSunday | .weekdayFromMonday => some 1
  | .ordinal => some 3
  | .nanosecond => some 9
  | .epochSeconds => none
  | _ => some 2

/-- A number that may have a sign. -/
def isSigned : NumberDirective → Bool
  | .year | .weekYear => true
  | _ => false

/-- The least and the greatest value. -/
def bounds : NumberDirective → Int × Int
  | .year | .weekYear => (-0x80000000, 0x7FFFFFFF)
  | .century => (0, 0x7FFFFFFF)
  | .yearOfCentury | .weekYearOfCentury => (0, 99)
  | .quarter => (1, 4)
  | .month => (1, 12)
  | .day => (1, 31)
  | .ordinal => (1, 366)
  | .weekFromSunday | .weekFromMonday => (0, 53)
  | .week => (1, 53)
  | .weekdayFromSunday => (0, 6)
  | .weekdayFromMonday => (1, 7)
  | .hour => (0, 23)
  | .hour12 => (1, 12)
  | .minute => (0, 59)
  | .second => (0, 60)
  | .nanosecond => (0, 999999999)
  | .epochSeconds => (-0x8000000000000000, 0x7FFFFFFFFFFFFFFF)

/-- The fields that a number fills, with their values. -/
def entries (value : Int) : NumberDirective → List (TimeField × Int)
  | .year => [(.year, value)]
  | .century => [(.century, value)]
  | .yearOfCentury => [(.yearOfCentury, value)]
  | .weekYear => [(.weekYear, value)]
  | .weekYearOfCentury => [(.weekYearOfCentury, value)]
  | .quarter => [(.quarter, value)]
  | .month => [(.month, value)]
  | .day => [(.day, value)]
  | .ordinal => [(.ordinal, value)]
  | .weekFromSunday => [(.weekFromSunday, value)]
  | .weekFromMonday => [(.weekFromMonday, value)]
  | .week => [(.week, value)]
  | .weekdayFromSunday => [(.weekday, (value + 6) % 7)]
  | .weekdayFromMonday => [(.weekday, value - 1)]
  | .hour => [(.halfDay, value / 12), (.hourOfHalf, value % 12)]
  | .hour12 => [(.hourOfHalf, value % 12)]
  | .minute => [(.minute, value)]
  | .second => [(.second, value)]
  | .nanosecond => [(.nanosecond, value)]
  | .epochSeconds => [(.epochSeconds, value)]

/-- Stores a number in the fields that it fills. -/
def store (directive : NumberDirective) (value : Int) (fields : TimeFields) :
    Except FormatFault TimeFields := do
  let (least, greatest) := directive.bounds
  if value < least ∨ greatest < value then throw .outOfRange
  (directive.entries value).foldlM (fun fields entry => fields.learn entry.1 entry.2) fields

end NumberDirective

namespace FormatItem

/-- A number of `least` digits or more, and of no more than `most` if that is given. -/
def readDigits (least : Nat) (most : Option Nat) (text : List Char) :
    Except FormatFault (Int × List Char) :=
  if Text.byteLength text < least then .error .tooShort
  else
    let digits := (text.take (most.getD text.length)).takeWhile Char.isDigit
    if digits.length < least then .error .invalid
    else if 0x8000000000000000 ≤ digitsValue digits then .error .outOfRange
    else .ok (digitsValue digits, text.drop digits.length)

/-- A number by a directive, after any blanks. -/
def readNumber (directive : NumberDirective) (text : List Char) :
    Except FormatFault (Int × List Char) :=
  match directive.isSigned, Text.trimStart text with
  | true, '-' :: rest => (readDigits 1 none rest).map fun (value, rest) => (-value, rest)
  | true, '+' :: rest => readDigits 1 none rest
  | _, text => readDigits 1 directive.width text

/-- The digits of a fraction as nanoseconds; digits past the ninth are passed over. -/
def readFraction (text : List Char) : Except FormatFault (Int × List Char) := do
  let (value, rest) ← readDigits 1 (some 9) text
  return (value * Nat.pow 10 (9 - (text.length - rest.length)), rest.dropWhile Char.isDigit)

/-- So many digits of a fraction as nanoseconds. -/
def readFractionOf (digits : Nat) (text : List Char) : Except FormatFault (Int × List Char) := do
  let (value, rest) ← readDigits digits (some digits) text
  return (value * Nat.pow 10 (9 - digits), rest)

/-- The names of the months, in lower case, each as its first three letters and the rest. -/
def monthNames : List (List Char × List Char) :=
  [("jan", "uary"), ("feb", "ruary"), ("mar", "ch"), ("apr", "il"), ("may", ""), ("jun", "e"),
    ("jul", "y"), ("aug", "ust"), ("sep", "tember"), ("oct", "ober"), ("nov", "ember"),
    ("dec", "ember")].map fun name => (name.1.toList, name.2.toList)

/-- The names of the weekdays, in lower case, each as its first three letters and the rest. -/
def weekdayNames : List (List Char × List Char) :=
  [("mon", "day"), ("tue", "sday"), ("wed", "nesday"), ("thu", "rsday"), ("fri", "day"),
    ("sat", "urday"), ("sun", "day")].map fun name => (name.1.toList, name.2.toList)

/-- The place of a name in a list of names, in letters of any case.  Where `full` holds,
the rest of the name is read as well if it is there. -/
def readName (names : List (List Char × List Char)) (full : Bool) (text : List Char) :
    Except FormatFault (Int × List Char) :=
  if Text.byteLength text < 3 then .error .tooShort
  else
    let beginning := (text.take 3).map Char.toLower
    match names.findIdx? (·.1 = beginning), names.find? (·.1 = beginning) with
    | some place, some (_, ending) =>
      let rest := text.drop 3
      if full ∧ (rest.take ending.length).map Char.toLower = ending then
        .ok (place, rest.drop ending.length)
      else .ok (place, rest)
    | _, _ => .error .invalid

/-- The first two bytes of a text have to be digits: the number that they write, and the
text after them. -/
def readTwoDigits (text : List Char) : Except FormatFault (Int × List Char) :=
  if Text.byteLength text < 2 then .error .tooShort
  else
    match text with
    | tens :: units :: rest =>
      if tens.isDigit ∧ units.isDigit then .ok (digitsValue [tens, units], rest)
      else .error .invalid
    | _ => .error .invalid

/-- The distance of a time zone in seconds.  Colons and blanks may stand between hours and
minutes. -/
def readOffset (allowZ optionalMinutes : Bool) (text : List Char) :
    Except FormatFault (Int × List Char) := do
  if allowZ then
    match text with
    | 'Z' :: rest | 'z' :: rest => return (0, rest)
    | _ => pure ()
  let (sign, rest) ← match text with
    | '+' :: rest => pure ((1 : Int), rest)
    | '-' :: rest | '−' :: rest => pure (-1, rest)
    | _ :: _ => throw .invalid
    | [] => throw .tooShort
  let (hours, rest) ← readTwoDigits rest
  let rest := rest.dropWhile fun c => c == ':' || Text.isBlank c
  if Text.byteLength rest < 2 then
    if ¬ optionalMinutes then throw .tooShort
    if rest ≠ [] then throw .tooShort
    return (sign * (hours * 3600), rest)
  let (minutes, rest) ← readTwoDigits rest
  if 60 ≤ minutes then throw .outOfRange
  return (sign * (hours * 3600 + minutes * 60), rest)

/-- Reads one step of a format.  The step `timestamp` is not read here. -/
def readSimple (text : List Char) (fields : TimeFields) :
    FormatItem → Except FormatFault (TimeFields × List Char)
  | .literal expected =>
    if Text.byteLength text < Text.byteLength expected then .error .tooShort
    else if expected.isPrefixOf text then .ok (fields, text.drop expected.length)
    else .error .invalid
  | .blanks => .ok (fields, Text.trimStart text)
  | .number directive => do
    let (value, rest) ← readNumber directive text
    return (← directive.store value fields, rest)
  | .monthName full => do
    let (place, rest) ← readName monthNames full text
    return (← fields.learn .month (place + 1), rest)
  | .weekdayName full => do
    let (place, rest) ← readName weekdayNames full text
    return (← fields.learn .weekday place, rest)
  | .halfDay =>
    if Text.byteLength text < 2 then .error .tooShort
    else
      let rest := text.drop 2
      match (text.take 2).map Char.toLower with
      | ['a', 'm'] => (fields.learn .halfDay 0).map (·, rest)
      | ['p', 'm'] => (fields.learn .halfDay 1).map (·, rest)
      | _ => .error .invalid
  | .fraction =>
    match text with
    | '.' :: rest => do
      let (value, rest) ← readFraction rest
      return (← NumberDirective.nanosecond.store value fields, rest)
    | _ => .ok (fields, text)
  | .fractionOf digits =>
    match text with
    | '.' :: rest => do
      let (value, rest) ← readFractionOf digits rest
      return (← NumberDirective.nanosecond.store value fields, rest)
    | _ => .ok (fields, text)
  | .bareFractionOf digits => do
    let (value, rest) ← readFractionOf digits text
    return (← NumberDirective.nanosecond.store value fields, rest)
  | .zoneName => .ok (fields, text.dropWhile fun c => !Text.isBlank c)
  | .zoneOffset relaxed => do
    let (offset, rest) ← readOffset relaxed relaxed (Text.trimStart text)
    return (← fields.learn .offset offset, rest)
  | .timestamp => .ok (fields, text)
  | .bad => .error .badFormat

/-- Reads steps in turn. -/
def readSimples (items : List FormatItem) (text : List Char) (fields : TimeFields) :
    Except FormatFault (TimeFields × List Char) :=
  items.foldlM (fun (fields, text) item => readSimple text fields item) (fields, text)

/-- Reads a whole date and time: the date, a `T` or a blank, the time of day with an
optional fraction, and the time zone, for which `UTC` may stand as well. -/
def readTimestamp (text : List Char) (fields : TimeFields) :
    Except FormatFault (TimeFields × List Char) := do
  let (fields, rest) ← readSimples
    [.number .year, .blanks, .literal ['-'], .number .month, .blanks, .literal ['-'],
      .number .day] text fields
  let rest ← match rest with
    | c :: rest => if c = 't' ∨ c = 'T' ∨ c = ' ' then pure rest else throw .invalid
    | [] => throw .tooShort
  let (fields, rest) ← readSimples
    [.number .hour, .blanks, .literal [':'], .number .minute, .blanks, .literal [':'],
      .number .second, .fraction, .blanks] rest fields
  if (rest.take 3).map Char.toLower = ['u', 't', 'c'] then
    return (← fields.learn .offset 0, rest.drop 3)
  let (offset, rest) ← readOffset true false rest
  return (← fields.learn .offset offset, rest)

/-- Reads one step of a format. -/
def read (text : List Char) (fields : TimeFields) (item : FormatItem) :
    Except FormatFault (TimeFields × List Char) :=
  match item with
  | .timestamp => readTimestamp text fields
  | item => readSimple text fields item

end FormatItem

/-- The fields that a whole text gives by a format. -/
def TimeFields.ofText (format text : List Char) : Except FormatFault TimeFields := do
  let (fields, rest) ← (FormatItem.ofChars format).foldlM
    (fun (fields, text) item => FormatItem.read text fields item) (TimeFields.unknown, text)
  if rest = [] then return fields else throw .tooLong

/-- The point in time that a whole text gives by a format. -/
def DateTime.ofFormat (format text : List Char) : Except FormatFault DateTime := do
  (← TimeFields.ofText format text).dateTime

/-- The date that a whole text gives by a format. -/
def Date.ofFormat (format text : List Char) : Except FormatFault Date := do
  (← TimeFields.ofText format text).date

end RecordQuery
