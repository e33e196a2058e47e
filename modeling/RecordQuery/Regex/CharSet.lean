import RecordQuery.Text.Age
import RecordQuery.Text.Alphabetic
import RecordQuery.Text.Blank
import RecordQuery.Text.Category
import RecordQuery.Text.Folding
import RecordQuery.Text.Property
import RecordQuery.Text.Script
import RecordQuery.Text.Segmentation

/-!
# Sets of characters in regular expressions

A set is its membership test, so that unions, intersections and complements are those
of truth values.  Next to the test a set counts the ranges that it was put together
from: the count has no part in matching and only measures how large an expression is.
-/

set_option autoImplicit false

namespace RecordQuery.Regex

open RecordQuery.Text

/-- A set of characters. -/
structure CharSet where
  contains : Char → Bool
  pieces : Nat

namespace CharSet

/-- No character. -/
def none : CharSet := ⟨fun _ => false, 0⟩

/-- Every character. -/
def all : CharSet := ⟨fun _ => true, 1⟩

/-- One character. -/
def one (c : Char) : CharSet := ⟨(· == c), 1⟩

/-- The characters from `first` to `last`. -/
def range (first last : Char) : CharSet := ⟨fun c => first ≤ c && c ≤ last, 1⟩

/-- The characters of either set. -/
def union (left right : CharSet) : CharSet :=
  ⟨fun c => left.contains c || right.contains c, left.pieces + right.pieces⟩

/-- The characters of both sets. -/
def inter (left right : CharSet) : CharSet :=
  ⟨fun c => left.contains c && right.contains c, left.pieces + right.pieces⟩

/-- The characters of the left set that are not in the right one. -/
def diff (left right : CharSet) : CharSet :=
  ⟨fun c => left.contains c && !right.contains c, left.pieces + right.pieces⟩

/-- The characters of exactly one of the sets. -/
def symmDiff (left right : CharSet) : CharSet :=
  ⟨fun c => left.contains c != right.contains c, left.pieces + right.pieces⟩

/-- All other characters. -/
def complement (set : CharSet) : CharSet := ⟨fun c => !set.contains c, set.pieces + 1⟩

/-- The characters that equal one of the set but for case. -/
def foldCase (set : CharSet) : CharSet :=
  ⟨fun c => (caseVariants c).any set.contains, 2 * set.pieces⟩

/-- The characters that equal one of the set but for the case of an ASCII letter. -/
def foldCaseAscii (set : CharSet) : CharSet :=
  ⟨fun c => set.contains c || set.contains c.toLower || set.contains c.toUpper, 2 * set.pieces⟩

/-- The set with a list of ranges. -/
def ofRanges (ranges : Ranges) : CharSet := ⟨ranges.contains, ranges.length⟩

/-- The set with the union of several lists of ranges. -/
def ofCategories (categories : List Category) : CharSet :=
  ofRanges (categories.flatMap Category.ranges)

/-! ## Named sets -/

/-- Decimal digits. -/
def digit : CharSet := ofCategories [.decimalNumber]

/-- Blanks. -/
def blank : CharSet := ⟨isBlank, 10⟩

/-- Characters of words: letters, marks, decimal digits, connecting punctuation and the two
joiners. -/
def word : CharSet :=
  let rest := ofRanges <| (0x200C, 0x200D) ::
    [Category.spacingMark, .enclosingMark, .nonspacingMark, .decimalNumber,
      .connectorPunctuation].flatMap Category.ranges
  ⟨fun c => isAlphabetic c || rest.contains c, 650⟩

/-- ASCII characters with a property. -/
def ascii (test : Char → Bool) : CharSet := ⟨fun c => c.val < 0x80 && test c, 4⟩

/-- Characters of ASCII words. -/
def asciiWord : CharSet := ascii fun c => c.isAlphanum || c == '_'

/-- The ASCII sets with a name. -/
def asciiClass? (name : List Char) : Option CharSet :=
  match String.ofList name with
  | "alnum" => some <| ascii Char.isAlphanum
  | "alpha" => some <| ascii Char.isAlpha
  | "ascii" => some <| ascii fun _ => true
  | "blank" => some <| ascii fun c => c == ' ' || c == '\t'
  | "cntrl" => some <| ascii fun c => c.toNat < 0x20 || c.toNat == 0x7F
  | "digit" => some <| ascii Char.isDigit
  | "graph" => some <| ascii fun c => 0x21 ≤ c.toNat && c.toNat ≤ 0x7E
  | "lower" => some <| ascii Char.isLower
  | "print" => some <| ascii fun c => 0x20 ≤ c.toNat && c.toNat ≤ 0x7E
  | "punct" => some <| ascii fun c => 0x21 ≤ c.toNat && c.toNat ≤ 0x7E && !c.isAlphanum
  | "space" => some <| ascii isBlank
  | "upper" => some <| ascii Char.isUpper
  | "word" => some asciiWord
  | "xdigit" => some <| ascii fun c =>
      c.isDigit || ('a' ≤ c && c ≤ 'f') || ('A' ≤ c && c ≤ 'F')
  | _ => Option.none

/-! ## Properties -/

/-- The name of a property without case, blanks, `_`, `-` and characters above ASCII.  A
leading `is` is dropped, except where `isc` would become `c`. -/
def propertyKey (name : List Char) : String :=
  let plain := fun (text : List Char) =>
    (text.filter fun c => c.val < 0x80 && c != ' ' && c != '_' && c != '-').map Char.toLower
  match name with
  | i :: s :: rest =>
    if (i = 'i' ∨ i = 'I') ∧ (s = 's' ∨ s = 'S') then
      if plain rest = ['c'] then "isc" else String.ofList (plain rest)
    else String.ofList (plain name)
  | _ => String.ofList (plain name)

/-- The characters of a general category or a group of them, by the key of its name. -/
def category? (key : String) : Option CharSet :=
  let assigned := ofCategories Category.all
  match key with
  | "any" => some all
  | "ascii" => some (ascii fun _ => true)
  | "assigned" => some assigned
  | "cn" | "unassigned" => some assigned.complement
  | "c" | "other" =>
    some (union (ofCategories [.control, .format, .privateUse]) assigned.complement)
  | _ => (Category.named.find? (key ∈ ·.1)).map fun entry => ofCategories entry.2

/-- The characters of a script, by the key of its name; with `extended`, also those that are
used in it. -/
def script? (extended : Bool) (key : String) : Option CharSet :=
  (scripts.find? (key ∈ ·.names)).map fun entry =>
    ofRanges <| Ranges.ofText <|
      if extended then entry.extended.getD entry.characters else entry.characters

/-- The characters of an entry of a table, by one of its names. -/
def entry? (table : List PropertyEntry) (key : String) : Option CharSet :=
  (table.find? (key ∈ ·.names)).map fun entry => ofRanges (Ranges.ofText entry.characters)

/-- The characters that a version of the standard has, by the key of its number: its own and
those of all versions before it. -/
def age? (key : String) : Option CharSet :=
  (ages.findIdx? (key ∈ ·.names)).map fun index =>
    ofRanges <| (ages.take (index + 1)).flatMap (Ranges.ofText ·.characters)

/-- The characters with a property that is asked for by one name: a property of its own, a
general category or a script. -/
def property? (name : List Char) : Option CharSet :=
  let key := propertyKey name
  let own :=
    if key = "cf" ∨ key = "sc" ∨ key = "lc" then Option.none else entry? properties key
  own <|> category? key <|> script? false key

/-- The characters for which a property has a value. -/
def propertyValue? (name value : List Char) : Option CharSet :=
  match propertyKey name with
  | "gc" | "generalcategory" => category? (propertyKey value)
  | "sc" | "script" => script? false (propertyKey value)
  | "scx" | "scriptextensions" => script? true (propertyKey value)
  | "age" => age? (propertyKey value)
  | "gcb" | "graphemeclusterbreak" => entry? graphemeBreaks (propertyKey value)
  | "wb" | "wordbreak" => entry? wordBreaks (propertyKey value)
  | "sb" | "sentencebreak" => entry? sentenceBreaks (propertyKey value)
  | _ => Option.none

end CharSet

end RecordQuery.Regex
