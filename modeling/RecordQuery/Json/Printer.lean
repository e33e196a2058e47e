import RecordQuery.Json.Basic
import RecordQuery.Number.Shortest

/-!
# Writing JSON documents

A document is written on one line without blanks, or over several lines with two blanks
of indentation for each level, where empty arrays and objects stay on one line.  Floats
are written by their shortest decimal: positional from `1e-5` up to below `1e16`, always
with a point, and beyond with a signed power of ten.  In strings only the quote, the backslash and
the characters below the blank are escaped.
-/

set_option autoImplicit false

namespace RecordQuery.Json

/-- How floats are written. -/
structure FloatLayout where
  /-- Positional notation for fewer leading zeros than this behind the point. -/
  leadingZeros : Int
  /-- Positional notation for no more digits than this before the point. -/
  wholeDigits : Int

/-- The layout of floats in a document. -/
def floatLayout : FloatLayout := ⟨5, 16⟩

/-- A decimal of positive value as text. -/
def decimalText (layout : FloatLayout) (decimal : Number.Decimal) : List Char :=
  let digits := Number.decimalDigits decimal.digits
  let count : Int := digits.length
  let point := count + decimal.exponent
  if 0 ≤ decimal.exponent ∧ point ≤ layout.wholeDigits then
    digits ++ List.replicate decimal.exponent.toNat '0' ++ ['.', '0']
  else if 0 < point ∧ point ≤ layout.wholeDigits then
    digits.take point.toNat ++ '.' :: digits.drop point.toNat
  else if -layout.leadingZeros < point ∧ point ≤ 0 then
    '0' :: '.' :: List.replicate (-point).toNat '0' ++ digits
  else
    let sign := if point < 1 then '-' else '+'
    let power := sign :: Number.decimalDigits (point - 1).natAbs
    match digits with
    | [digit] => digit :: 'e' :: power
    | digit :: digits => digit :: '.' :: digits ++ 'e' :: power
    | [] => []

/-- A finite float as text. -/
def floatText (value : Float) : String :=
  let parts := Number.Binary64.ofFloat value
  let size :=
    if parts.mantissa = 0 then ['0', '.', '0']
    else decimalText floatLayout (Number.shortest parts)
  String.ofList (if parts.negative then '-' :: size else size)

/-- The escape of a character that may not stand in a string as it is. -/
def escape? (c : Char) : Option (List Char) :=
  if c = '"' then some ['\\', '"']
  else if c = '\\' then some ['\\', '\\']
  else if c = '\x08' then some ['\\', 'b']
  else if c = '\x0c' then some ['\\', 'f']
  else if c = '\n' then some ['\\', 'n']
  else if c = '\r' then some ['\\', 'r']
  else if c = '\t' then some ['\\', 't']
  else if c.toNat < 0x20 then
    some (['\\', 'u', '0', '0'] ++
      [Nat.digitChar (c.toNat / 16), Nat.digitChar (c.toNat % 16)])
  else none

/-- A string in quotes. -/
def quote (text : String) : String :=
  String.ofList ('"' :: text.toList.flatMap (fun c => (escape? c).getD [c]) ++ ['"'])

mutual

/-- A document on one line. -/
def compact : Json → String
  | .null => "null"
  | .bool value => if value then "true" else "false"
  | .integer value => toString value
  | .float value => floatText value
  | .string text => quote text
  | .array items => "[" ++ ",".intercalate (compactItems items) ++ "]"
  | .object members => "\x7b" ++ ",".intercalate (compactMembers members) ++ "\x7d"

/-- The items of an array, each on one line. -/
def compactItems : List Json → List String
  | [] => []
  | item :: items => compact item :: compactItems items

/-- The members of an object, each on one line. -/
def compactMembers : List (String × Json) → List String
  | [] => []
  | (key, value) :: members => (quote key ++ ":" ++ compact value) :: compactMembers members

end

/-- A line break and the indentation of a level. -/
def lineBreak (level : Nat) : String :=
  String.ofList ('\n' :: List.replicate (2 * level) ' ')

/-- The parts of an array or an object on lines of their own, one level further in. -/
def block (opening closing : String) (level : Nat) (parts : List String) : String :=
  if parts = [] then opening ++ closing
  else
    opening ++ lineBreak (level + 1) ++ ("," ++ lineBreak (level + 1)).intercalate parts ++
      lineBreak level ++ closing

mutual

/-- A document over several lines, which begins at a level of indentation. -/
def pretty (level : Nat) : Json → String
  | .null => "null"
  | .bool value => if value then "true" else "false"
  | .integer value => toString value
  | .float value => floatText value
  | .string text => quote text
  | .array items => block "[" "]" level (prettyItems level items)
  | .object members => block "\x7b" "\x7d" level (prettyMembers level members)

/-- The items of an array at a level, one level further in. -/
def prettyItems (level : Nat) : List Json → List String
  | [] => []
  | item :: items => pretty (level + 1) item :: prettyItems level items

/-- The members of an object at a level, one level further in. -/
def prettyMembers (level : Nat) : List (String × Json) → List String
  | [] => []
  | (key, value) :: members =>
    (quote key ++ ": " ++ pretty (level + 1) value) :: prettyMembers level members

end

end RecordQuery.Json
