/-!
# Blanks and lengths of texts

Blanks are the characters with the Unicode property White_Space: twenty-five of
them, among them the line feed and the no-break space, but not the zero-width
space.  Positions in a query are counted in bytes of its UTF-8 form, while all
scanning is done on lists of characters; `byteLength` and `splitAtByte` go
between the two.
-/

set_option autoImplicit false

namespace RecordQuery.Text

/-- A character with the property White_Space. -/
def isBlank (c : Char) : Bool :=
  let code := c.toNat
  (9 ≤ code && code ≤ 13) || code == 0x20 || code == 0x85 || code == 0xA0 || code == 0x1680 ||
    (0x2000 ≤ code && code ≤ 0x200A) || code == 0x2028 || code == 0x2029 || code == 0x202F ||
    code == 0x205F || code == 0x3000

/-- A text without the blanks at its start. -/
def trimStart (text : List Char) : List Char := text.dropWhile isBlank

/-- A text without the blanks at either end. -/
def trim (text : List Char) : List Char := (trimStart (trimStart text).reverse).reverse

/-- The length of a text in bytes of its UTF-8 form. -/
def byteLength : List Char → Nat
  | [] => 0
  | c :: text => c.utf8Size + byteLength text

@[simp] theorem byteLength_append (left right : List Char) :
    byteLength (left ++ right) = byteLength left + byteLength right := by
  induction left with
  | nil => simp [byteLength]
  | cons c left ih => simp only [List.cons_append, byteLength, ih, Nat.add_assoc]

/-- The characters that start before byte `offset`, and those from there on. -/
def splitAtByte : Nat → List Char → List Char × List Char
  | 0, text => ([], text)
  | _ + 1, [] => ([], [])
  | offset + 1, c :: text =>
    let (before, after) := splitAtByte (offset + 1 - c.utf8Size) text
    (c :: before, after)

/-- Cutting a text at the length of its first part gives the two parts. -/
theorem splitAtByte_append (left right : List Char) :
    splitAtByte (byteLength left) (left ++ right) = (left, right) := by
  induction left with
  | nil => simp [byteLength, splitAtByte]
  | cons c left ih =>
    have positive : 0 < c.utf8Size := Char.utf8Size_pos c
    obtain ⟨n, hn⟩ := Nat.exists_eq_add_one.2 (Nat.add_pos_left positive (byteLength left))
    have rest : n + 1 - c.utf8Size = byteLength left := by omega
    simp only [byteLength, List.cons_append, hn, splitAtByte, rest, ih]

end RecordQuery.Text
