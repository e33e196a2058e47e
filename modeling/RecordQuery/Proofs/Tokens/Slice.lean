import RecordQuery.Query.Cursor

/-!
# Slices

A slice of a text is what stands between two of its bytes.  `Text.Slice` says what the slice is
and, with that, that there is one: both bytes are boundaries of characters, the first one is not
behind the second one, and neither is behind the end of the text.

A cursor that moves over some characters (`Cursor.Passes`) cuts them out of its source.  So
whatever is known of moves in characters is known in bytes.
-/

set_option autoImplicit false

namespace RecordQuery

namespace Text

/-- The characters of a text from byte `start` up to byte `stop`. -/
def Slice (source : String) (start stop : Nat) (piece : List Char) : Prop :=
  ∃ before after, source.toList = before ++ piece ++ after ∧ byteLength before = start ∧
    byteLength (before ++ piece) = stop

theorem byteLength_eq_utf8ByteSize (text : List Char) :
    byteLength text = (String.ofList text).utf8ByteSize := by
  induction text with
  | nil => rfl
  | cons c text ih =>
      have split : String.ofList (c :: text) = String.singleton c ++ String.ofList text := by
        rw [String.singleton_eq_ofList, ← String.ofList_append, List.singleton_append]
      rw [byteLength, ih, split, String.utf8ByteSize_append, String.utf8ByteSize_singleton]

@[simp] theorem byteLength_toList (text : String) : byteLength text.toList = text.utf8ByteSize := by
  rw [byteLength_eq_utf8ByteSize, String.ofList_toList]

/-- A text is cut at a byte in one way only. -/
theorem append_inj_of_byteLength_eq {before before' after after' : List Char}
    (same : before ++ after = before' ++ after') (length : byteLength before = byteLength before') :
    before = before' ∧ after = after' := by
  have cut := splitAtByte_append before after
  rw [same, length, splitAtByte_append, Prod.mk.injEq] at cut
  exact ⟨cut.1.symm, cut.2.symm⟩

namespace Slice

variable {source : String} {start middle stop : Nat} {piece next : List Char}

theorem start_le_stop (slice : Slice source start stop piece) : start ≤ stop := by
  obtain ⟨before, after, _, rfl, rfl⟩ := slice
  rw [byteLength_append]
  exact Nat.le_add_right _ _

theorem stop_eq (slice : Slice source start stop piece) : stop = start + byteLength piece := by
  obtain ⟨before, after, _, rfl, rfl⟩ := slice
  exact byteLength_append before piece

theorem stop_le (slice : Slice source start stop piece) : stop ≤ source.utf8ByteSize := by
  obtain ⟨before, after, split, rfl, rfl⟩ := slice
  rw [← byteLength_toList, split, byteLength_append (before ++ piece)]
  exact Nat.le_add_right _ _

/-- What stands before a slice. -/
theorem exists_before (slice : Slice source start stop piece) :
    ∃ before, Slice source 0 start before := by
  obtain ⟨before, after, split, rfl, _⟩ := slice
  exact ⟨before, [], piece ++ after, by rw [split, List.nil_append, List.append_assoc], rfl, rfl⟩

/-- The bytes of a slice are boundaries of characters. -/
theorem isValid (slice : Slice source start stop piece) :
    String.Pos.Raw.IsValid source ⟨start⟩ ∧ String.Pos.Raw.IsValid source ⟨stop⟩ := by
  have boundary : ∀ before after : List Char, source.toList = before ++ after →
      String.Pos.Raw.IsValid source ⟨byteLength before⟩ := by
    intro before after split
    refine String.Pos.Raw.isValid_iff_exists_append.2
      ⟨String.ofList before, String.ofList after, ?_, ?_⟩
    · rw [← String.ofList_append, ← split, String.ofList_toList]
    · rw [byteLength_eq_utf8ByteSize]
      rfl
  obtain ⟨before, after, split, rfl, rfl⟩ := slice
  refine ⟨boundary before (piece ++ after) ?_, boundary (before ++ piece) after split⟩
  rw [← List.append_assoc, split]

/-- Two slices that meet are one slice. -/
theorem append (first : Slice source start middle piece) (second : Slice source middle stop next) :
    Slice source start stop (piece ++ next) := by
  obtain ⟨before, after, split, rfl, rfl⟩ := first
  obtain ⟨before', after', split', length, rfl⟩ := second
  have same : before ++ piece ++ after = before' ++ (next ++ after') := by
    rw [← split, split', List.append_assoc]
  obtain ⟨rfl, rfl⟩ := append_inj_of_byteLength_eq same length.symm
  exact ⟨before, after', by rw [split']; simp only [List.append_assoc], rfl,
    by rw [List.append_assoc]⟩

end Slice

end Text

open Text (Slice byteLength byteLength_append)

/-! ## Moves of a cursor -/

namespace Cursor

variable {cursor middle next : Cursor} {piece piece' : List Char}

/-- The next cursor is behind some characters that were left. -/
structure Passes (cursor : Cursor) (piece : List Char) (next : Cursor) : Prop where
  source : next.source = cursor.source
  rest : cursor.rest = piece ++ next.rest
  position : next.position = cursor.position + byteLength piece

theorem Passes.trans (first : cursor.Passes piece middle) (second : middle.Passes piece' next) :
    cursor.Passes (piece ++ piece') next where
  source := second.source.trans first.source
  rest := by rw [first.rest, second.rest, List.append_assoc]
  position := by rw [second.position, first.position, byteLength_append, Nat.add_assoc]

theorem passes_advance (cursor : Cursor) (count : Nat) :
    cursor.Passes (cursor.rest.take count) (cursor.advance count) where
  source := rfl
  rest := (List.take_append_drop count cursor.rest).symm
  position := rfl

/-- The characters that a cursor passes are the slice between the two places. -/
theorem Passes.slice (passes : cursor.Passes piece next) :
    Slice cursor.source cursor.position next.position piece := by
  obtain ⟨before, split, position⟩ := cursor.splits
  refine ⟨before, next.rest, ?_, position.symm, ?_⟩
  · rw [split, passes.rest, List.append_assoc]
  · rw [byteLength_append, ← position, passes.position]

/-- What is left at a cursor is the slice from there up to the end. -/
theorem slice_rest (cursor : Cursor) :
    Slice cursor.source cursor.position cursor.source.utf8ByteSize cursor.rest := by
  obtain ⟨before, split, position⟩ := cursor.splits
  refine ⟨before, [], by rw [split, List.append_nil], position.symm, ?_⟩
  rw [← split, Text.byteLength_toList]

/-- Where nothing is left, the cursor is at the end. -/
theorem position_of_rest_nil (left : cursor.rest = []) :
    cursor.position = cursor.source.utf8ByteSize := by
  have slice := cursor.slice_rest
  rw [left] at slice
  exact slice.stop_eq.symm

/-- The blanks before the next token. -/
theorem passes_skipBlanks (cursor : Cursor) :
    cursor.Passes (cursor.rest.takeWhile Text.isBlank) cursor.skipBlanks := by
  have passes := cursor.passes_advance (cursor.rest.takeWhile Text.isBlank).length
  rwa [(List.prefix_iff_eq_take.1 (List.takeWhile_prefix Text.isBlank)).symm] at passes

end Cursor

end RecordQuery
