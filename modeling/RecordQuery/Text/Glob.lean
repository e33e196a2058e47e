/-!
# Patterns with wildcards

In a pattern `*` stands for any run of characters, `?` for exactly one, and every other
character for itself.  A text is compared by a table with a row for each suffix of the
pattern, the empty one first: the row says of each suffix of the text, from the longest
to the empty one, whether the suffix of the pattern takes it whole.  So the work is the
product of the two lengths, however many wildcards there are.
-/

set_option autoImplicit false

namespace RecordQuery.Glob

/-- Says of each place whether a row holds there or at a later place. -/
def orLater : List Bool → List Bool
  | [] => []
  | holds :: row =>
    let later := orLater row
    (holds || later.headD false) :: later

/-- The row of a pattern with one more character in front: `*` takes any run of characters
before what the row takes, `?` any one of them, every other character itself. -/
def extend (text : List Char) (c : Char) (row : List Bool) : List Bool :=
  if c = '*' then orLater row
  else List.zipWith (fun d next => (c == '?' || c == d) && next) text row.tail ++ [false]

/-- The row of a pattern: which suffixes of the text it takes. -/
def row (text : List Char) : List Char → List Bool
  | [] => text.map (fun _ => false) ++ [true]
  | c :: pattern => extend text c (row text pattern)

/-- The pattern takes the whole text. -/
def accepts (pattern text : List Char) : Bool := (row text pattern).headD false

end RecordQuery.Glob
