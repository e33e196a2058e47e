import RecordQuery.Json.Number

/-!
# Reading JSON documents

Reading goes through the text once, from the front.  Every step gives the rest of the
text with the proof that it is shorter, which is why reading ends.  Arrays and objects
may be nested 127 deep.
-/

set_option autoImplicit false

namespace RecordQuery.Json

open Text (digitRun hexDigit?)

/-- The rest of a text after something was read from its front. -/
abbrev Rest (text : List Char) := { rest : List Char // rest.length < text.length }

/-- A blank of JSON. -/
def isBlank (c : Char) : Bool := c == ' ' || c == '\n' || c == '\t' || c == '\r'

/-- A text without the blanks at its front. -/
def skipBlanks (text : List Char) : List Char := text.dropWhile isBlank

theorem length_skipBlanks_le (text : List Char) : (skipBlanks text).length ≤ text.length :=
  (List.dropWhile_sublist _).length_le

/-- The value of four hexadecimal digits at the front of a text. -/
def hexUnit : List Char → Except Fault Nat
  | a :: b :: c :: d :: _ =>
    match hexDigit? a, hexDigit? b, hexDigit? c, hexDigit? d with
    | some a, some b, some c, some d => .ok (((a * 16 + b) * 16 + c) * 16 + d)
    | _, _, _, _ => .error .unexpectedCharacter
  | _ => .error .unexpectedEnd

/-- The character that a letter after a backslash stands for. -/
def escaped? : Char → Option Char
  | '"' => some '"'
  | '\\' => some '\\'
  | '/' => some '/'
  | 'b' => some '\x08'
  | 'f' => some '\x0c'
  | 'n' => some '\n'
  | 'r' => some '\r'
  | 't' => some '\t'
  | _ => none

/-- One character of a string, which an escape may write, and the number of characters
that it takes.  A pair of surrogates is one character. -/
def stringChar : List Char → Except Fault (Char × Nat)
  | [] => .error .unexpectedEnd
  | '\\' :: 'u' :: text => do
    let unit ← hexUnit text
    if 0xDC00 ≤ unit ∧ unit ≤ 0xDFFF then throw .loneSurrogate
    if 0xD800 ≤ unit ∧ unit ≤ 0xDBFF then
      match text.drop 4 with
      | '\\' :: 'u' :: text =>
        let low ← hexUnit text
        if 0xDC00 ≤ low ∧ low ≤ 0xDFFF then
          return (Char.ofNat (0x10000 + (unit - 0xD800) * 0x400 + (low - 0xDC00)), 12)
        else throw .loneSurrogate
      | [] => throw .unexpectedEnd
      | _ => throw .loneSurrogate
    return (Char.ofNat unit, 6)
  | '\\' :: c :: _ =>
    match escaped? c with
    | some character => .ok (character, 2)
    | none => .error .unexpectedCharacter
  | ['\\'] => .error .unexpectedEnd
  | c :: _ => if c.toNat < 0x20 then .error .unexpectedCharacter else .ok (c, 1)

/-- The characters of a string up to the closing quote, put before which are those already
read, last one first. -/
def readString (seen : List Char) (text : List Char) : Except Fault (String × Rest text) :=
  match text with
  | '"' :: rest => .ok (String.ofList seen.reverse, ⟨rest, by simp⟩)
  | [] => .error .unexpectedEnd
  | c :: rest => do
    let (character, width) ← stringChar (c :: rest)
    let (content, ⟨after, _⟩) ← readString (character :: seen) (rest.drop (width - 1))
    return (content, ⟨after, by simp only [List.length_drop, List.length_cons] at *; omega⟩)
termination_by text.length
decreasing_by simp only [List.length_drop, List.length_cons]; omega

/-- The digits of a number and the rest of the text. -/
def readNumber (text : List Char) : Except Fault (NumberNotation × List Char) := do
  let (negative, text) := match text with
    | '-' :: rest => (true, rest)
    | text => (false, text)
  let (whole, text) := digitRun text
  if whole = [] ∨ (whole.head? = some '0' ∧ whole.length ≠ 1) then throw .unexpectedCharacter
  let (fraction, text) ← match text with
    | '.' :: rest =>
      let (digits, rest) := digitRun rest
      if digits = [] then throw .unexpectedCharacter
      pure (some digits, rest)
    | text => pure (none, text)
  match text with
  | c :: rest =>
    if c = 'e' ∨ c = 'E' then
      let (isNegative, rest) := match rest with
        | '+' :: rest => (false, rest)
        | '-' :: rest => (true, rest)
        | rest => (false, rest)
      let (digits, rest) := digitRun rest
      if digits = [] then throw .unexpectedCharacter
      return (⟨negative, whole, fraction, some (isNegative, digits)⟩, rest)
    else return (⟨negative, whole, fraction, none⟩, c :: rest)
  | [] => return (⟨negative, whole, fraction, none⟩, [])

/-- The rest of a text after a word that has to stand at its front. -/
def expectWord (word text : List Char) : Except Fault (List Char) :=
  if word.isPrefixOf text then .ok (text.drop word.length) else .error .unexpectedCharacter

/-- A rest that has to be shorter than the text. -/
def shorten (text rest : List Char) : Except Fault (Rest text) :=
  if h : rest.length < text.length then .ok ⟨rest, h⟩ else .error .unexpectedCharacter

mutual

/-- A document, after any blanks.  `depth` is the number of arrays and objects that may
still be opened. -/
def readValue (depth : Nat) (text : List Char) : Except Fault (Json × Rest text) :=
  have := length_skipBlanks_le text
  match h : skipBlanks text with
  | [] => .error .unexpectedEnd
  | '"' :: rest => do
    let (content, ⟨rest, _⟩) ← readString [] rest
    return (.string content, ⟨rest, by simp_all only [List.length_cons]; omega⟩)
  | '[' :: rest =>
    if depth ≤ 1 then .error .tooDeep
    else
      match h : skipBlanks rest with
      | ']' :: after =>
        .ok (.array [], ⟨after, by
          have := length_skipBlanks_le rest
          simp_all only [List.length_cons]; omega⟩)
      | _ => do
        let (items, ⟨rest, _⟩) ← readItems (depth - 1) rest
        return (.array items, ⟨rest, by simp_all only [List.length_cons]; omega⟩)
  | '{' :: rest =>
    if depth ≤ 1 then .error .tooDeep
    else
      match h : skipBlanks rest with
      | '}' :: after =>
        .ok (.object [], ⟨after, by
          have := length_skipBlanks_le rest
          simp_all only [List.length_cons]; omega⟩)
      | _ => do
        let (members, ⟨rest, _⟩) ← readMembers (depth - 1) rest
        return (ofMembers members, ⟨rest, by simp_all only [List.length_cons]; omega⟩)
  | c :: rest => do
    if c = 'n' then return (.null, ← shorten text (← expectWord "null".toList (c :: rest)))
    if c = 't' then return (.bool true, ← shorten text (← expectWord "true".toList (c :: rest)))
    if c = 'f' then return (.bool false, ← shorten text (← expectWord "false".toList (c :: rest)))
    let (number, rest) ← readNumber (c :: rest)
    return (← number.value, ← shorten text rest)
termination_by 2 * text.length
decreasing_by all_goals simp_all only [List.length_cons]; omega

/-- The items of an array up to its closing bracket. -/
def readItems (depth : Nat) (text : List Char) : Except Fault (List Json × Rest text) := do
  let (item, ⟨rest, _⟩) ← readValue depth text
  have := length_skipBlanks_le rest
  match h : skipBlanks rest with
  | ']' :: rest => return ([item], ⟨rest, by simp_all only [List.length_cons]; omega⟩)
  | ',' :: rest =>
    let (items, ⟨rest, _⟩) ← readItems depth rest
    return (item :: items, ⟨rest, by simp_all only [List.length_cons]; omega⟩)
  | [] => throw .unexpectedEnd
  | _ => throw .unexpectedCharacter
termination_by 2 * text.length + 1
decreasing_by all_goals (try simp_all only [List.length_cons]); omega

/-- The members of an object up to its closing brace. -/
def readMembers (depth : Nat) (text : List Char) :
    Except Fault (List (String × Json) × Rest text) :=
  have := length_skipBlanks_le text
  match h : skipBlanks text with
  | '"' :: rest => do
    let (key, ⟨rest, _⟩) ← readString [] rest
    have := length_skipBlanks_le rest
    match h : skipBlanks rest with
    | ':' :: rest =>
      let (value, ⟨rest, _⟩) ← readValue depth rest
      have := length_skipBlanks_le rest
      match h : skipBlanks rest with
      | '}' :: rest => return ([(key, value)], ⟨rest, by simp_all only [List.length_cons]; omega⟩)
      | ',' :: rest =>
        let (members, ⟨rest, _⟩) ← readMembers depth rest
        return ((key, value) :: members, ⟨rest, by simp_all only [List.length_cons]; omega⟩)
      | [] => throw .unexpectedEnd
      | _ => throw .unexpectedCharacter
    | [] => throw .unexpectedEnd
    | _ => throw .unexpectedCharacter
  | [] => .error .unexpectedEnd
  | _ => .error .unexpectedCharacter
termination_by 2 * text.length
decreasing_by all_goals simp_all only [List.length_cons]; omega

end

/-- The document that a text writes. -/
def ofText (text : String) : Except Fault Json := do
  let (document, ⟨rest, _⟩) ← readValue 128 text.toList
  if skipBlanks rest = [] then return document else throw .trailingCharacters

end RecordQuery.Json
