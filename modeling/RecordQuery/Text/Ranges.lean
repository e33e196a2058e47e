/-!
# Sets of characters as ranges

The tables of the Unicode standard say which characters have a property by
listing ranges of code points, and which character another one maps to by listing
runs of characters that all move by the same distance.  This module holds both
shapes and the look-ups in them.  All tables that are written in them are of
version 17.0 of the standard.
-/

set_option autoImplicit false

namespace RecordQuery.Text

/-- A set of characters, as ranges of code points with both ends included. -/
abbrev Ranges := List (Nat × Nat)

namespace Ranges

/-- Membership in one of the ranges. -/
def contains (ranges : Ranges) (c : Char) : Bool :=
  ranges.any fun range => range.1 ≤ c.toNat && c.toNat ≤ range.2

/-- The value of a hexadecimal digit in capitals; anything else counts as zero. -/
def hexValue (c : Char) : Nat :=
  if c.isDigit then c.toNat - '0'.toNat else c.toNat + 10 - 'A'.toNat

/-- Reads the written form: code points in hexadecimal capitals, a `-` between the
two ends of a range, blanks between ranges.  `first` is the lower end of the range
being read, `last` the number being read. -/
def ofChars (first last : Option Nat) : List Char → Ranges
  | [] => (last.map fun stop => (first.getD stop, stop)).toList
  | c :: text =>
    if c = ' ' ∨ c = '\n' then
      (last.map fun stop => (first.getD stop, stop)).toList ++ ofChars none none text
    else if c = '-' then ofChars last none text
    else ofChars first (some (last.getD 0 * 16 + hexValue c)) text

/-- The ranges that a text writes. -/
def ofText (text : String) : Ranges := ofChars none none text.toList

end Ranges

/-- Every `step`-th character from `first` to `last` maps to the one `offset` code
points further on. -/
structure Run where
  first : Nat
  last : Nat
  step : Nat
  offset : Int

namespace Run

/-- The run says where a code point maps. -/
def covers (run : Run) (code : Nat) : Bool :=
  run.first ≤ code && code ≤ run.last && (code - run.first) % run.step == 0

/-- Where a character maps; a character that no run covers stays. -/
def apply (runs : List Run) (c : Char) : Char :=
  match runs.find? (·.covers c.toNat) with
  | some run => Char.ofNat (Int.ofNat c.toNat + run.offset).toNat
  | none => c

/-- The characters that map to `target`. -/
def sources (runs : List Run) (target : Char) : List Char :=
  runs.filterMap fun run =>
    let code := (Int.ofNat target.toNat - run.offset).toNat
    if run.covers code then some (Char.ofNat code) else none

end Run

end RecordQuery.Text
