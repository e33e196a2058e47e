import RecordQuery.Proofs.Grammar.Bounds

/-!
# Reports are short

A query may be as long as it likes, and so may be a line of it, what is wrong on the line, and a
message that names things from the query.  The report is short all the same.  It shows one line, cut
on both sides, and the marker below it stands where the fault is.

`CompileError.Window` is what a report shows of a line.  It is a slice of the line with dots just
where something is missing, and carries the proofs of that, so that everything else about the report
is a count of characters (`CompileError.report_bounded`).  The line is cut in three places that know
nothing of each other, before the span, inside it and after it.  Each cut gives a slice that ends
where the next one begins (`keepEnd_slice`, `keepStart_slice`), so they make up one.
-/

set_option autoImplicit false

namespace RecordQuery

open Text (Slice byteLength byteLength_append)

/-! ## Slices inside slices -/

namespace Text

theorem byteLength_pos {text : List Char} (some_ : 0 < text.length) : 0 < byteLength text := by
  cases text with
  | nil => exact absurd some_ (lt_irrefl 0)
  | cons c text => exact Nat.add_pos_left c.utf8Size_pos _

variable {source : String} {start middle stop first last : Nat} {piece next whole : List Char}

/-- A slice of two pieces is cut where the second one begins. -/
theorem Slice.split (slice : Slice source start stop (piece ++ next)) :
    Slice source start (start + byteLength piece) piece ∧
      Slice source (start + byteLength piece) stop next := by
  obtain ⟨before, after, split, rfl, rfl⟩ := slice
  refine ⟨⟨before, next ++ after, ?_, rfl, byteLength_append _ _⟩,
    ⟨before ++ piece, after, ?_, byteLength_append _ _, by rw [List.append_assoc]⟩⟩
  · rw [split]
    simp only [List.append_assoc]
  · rw [split]
    simp only [List.append_assoc]

/-- Of two slices that begin together the shorter one is the beginning of the other one. -/
theorem Slice.prefix_of_le (slice : Slice source start middle piece)
    (slice' : Slice source start stop whole) (shorter : middle ≤ stop) : piece <+: whole := by
  obtain ⟨before, after, split, rfl, rfl⟩ := slice
  obtain ⟨before', after', split', same, rfl⟩ := slice'
  rw [split, List.append_assoc, List.append_assoc] at split'
  obtain ⟨rfl, rest⟩ := Text.append_inj_of_byteLength_eq split' same.symm
  rcases List.prefix_or_prefix_of_prefix ⟨after, rest⟩ (List.prefix_append whole after') with
    inside | ⟨more, rfl⟩
  · exact inside
  · have nothing : more = [] := by
      by_contra some_
      have positive := byteLength_pos (List.length_pos_of_ne_nil some_)
      simp only [byteLength_append] at shorter
      omega
    rw [nothing, List.append_nil]

/-- A byte is the end of a slice of the whole text if it is the boundary of a character. -/
theorem slice_zero_of_isValid (boundary : String.Pos.Raw.IsValid source ⟨stop⟩) :
    ∃ before, Slice source 0 stop before := by
  obtain ⟨front, back, rfl, ends⟩ := String.Pos.Raw.isValid_iff_exists_append.1 boundary
  refine ⟨front.toList, [], back.toList, String.toList_append, rfl, ?_⟩
  rw [List.nil_append, byteLength_toList]
  exact (congrArg String.Pos.Raw.byteIdx ends).symm

/-- Between two boundaries there is a slice. -/
theorem exists_slice (ordered : start ≤ stop)
    (start_boundary : String.Pos.Raw.IsValid source ⟨start⟩)
    (stop_boundary : String.Pos.Raw.IsValid source ⟨stop⟩) :
    ∃ piece, Slice source start stop piece := by
  obtain ⟨before, front⟩ := slice_zero_of_isValid start_boundary
  obtain ⟨_, whole⟩ := slice_zero_of_isValid stop_boundary
  obtain ⟨piece, rfl⟩ := front.prefix_of_le whole ordered
  have between := whole.split.2
  rw [← front.stop_eq] at between
  exact ⟨piece, between⟩

/-- What stands in a part of a slice stands in the slice. -/
theorem Slice.subset_of_le (slice : Slice source first last piece)
    (slice' : Slice source start stop whole) (left : start ≤ first) (right : last ≤ stop) :
    piece ⊆ whole := by
  obtain ⟨gap, between⟩ := exists_slice left slice'.isValid.1 slice.isValid.1
  obtain ⟨others, rfl⟩ := (between.append slice).prefix_of_le slice' right
  exact fun c mem => List.mem_append_left others (List.mem_append_right gap mem)

end Text

/-! ## Cutting -/

theorem length_cutTo_le (width : Nat) (text : String) : (cutTo width text).length ≤ width + 3 := by
  unfold cutTo
  split
  · rw [String.length_append, String.length_ofList, List.length_take]
    exact Nat.add_le_add_right (Nat.min_le_left _ _) 3
  · next short =>
    rw [String.length_toList, Nat.not_lt] at short
    exact Nat.le_add_right_of_le short

namespace CompileError

variable {source : String} {start stop : Nat} {text : List Char}

/-- Dots where something is cut off. -/
def dots (cut : Prop) [Decidable cut] : List Char := if cut then "...".toList else []

theorem length_dots_le (cut : Prop) [Decidable cut] : (dots cut).length ≤ 3 := by
  unfold dots
  split <;> decide

theorem newline_not_mem_dots (cut : Prop) [Decidable cut] : '\n' ∉ dots cut := by
  unfold dots
  split <;> decide

/-- What is kept of the text before a span is a slice up to the span. -/
theorem keepEnd_slice (slice : Slice source start stop text) :
    ∃ first kept, start ≤ first ∧ Slice source first stop kept ∧ kept.length ≤ contextWidth ∧
      keepEnd text = dots (start < first) ++ kept := by
  unfold keepEnd
  split
  · next long =>
    have cut : Slice source start stop (text.take (text.length - contextWidth) ++
        text.drop (text.length - contextWidth)) := by rwa [List.take_append_drop]
    have missing : 0 < byteLength (text.take (text.length - contextWidth)) := by
      refine Text.byteLength_pos ?_
      rw [List.length_take]
      omega
    refine ⟨_, _, Nat.le_add_right _ _, cut.split.2, ?_, ?_⟩
    · rw [List.length_drop]
      omega
    · rw [dots, if_pos (Nat.lt_add_of_pos_right missing)]
  · next short =>
    refine ⟨start, text, le_rfl, slice, Nat.not_lt.1 short, ?_⟩
    rw [dots, if_neg (lt_irrefl start), List.nil_append]

/-- What is kept of a text behind a span is a slice from its beginning. -/
theorem keepStart_slice (slice : Slice source start stop text) :
    ∃ last, last ≤ stop ∧ Slice source start last (text.take contextWidth) ∧
      (contextWidth < text.length → last < stop) ∧
      keepStart text = text.take contextWidth ++ dots (last < stop) := by
  unfold keepStart
  split
  · next long =>
    have cut : Slice source start stop (text.take contextWidth ++ text.drop contextWidth) := by
      rwa [List.take_append_drop]
    have missing : 0 < byteLength (text.drop contextWidth) := by
      refine Text.byteLength_pos ?_
      rw [List.length_drop]
      omega
    have before : start + byteLength (text.take contextWidth) < stop := by
      rw [cut.split.2.stop_eq]
      exact Nat.lt_add_of_pos_right missing
    exact ⟨_, before.le, cut.split.1, fun _ => before, by rw [dots, if_pos before]⟩
  · next short =>
    rw [List.take_of_length_le (Nat.not_lt.1 short)]
    refine ⟨stop, le_rfl, slice, fun long => absurd long short, ?_⟩
    rw [dots, if_neg (lt_irrefl stop), List.append_nil]

/-! ## What a report shows -/

/-- What a report shows of the line on which a span starts: some of what stands before the span, the
first characters of the part of the span that is on the line and, if these are all of it, some of
what stands behind. -/
structure Window (source : String) (start stop : Nat) where
  lineStart : Nat
  lineStop : Nat
  line_start : Text.LineStart source lineStart start
  line_stop : Text.LineStop source start lineStop
  /-- The part of the span that is on the line. -/
  inside : List Char
  inside_slice : Slice source start (max start (min stop lineStop)) inside
  first : Nat
  last : Nat
  before : List Char
  after : List Char
  first_on_line : lineStart ≤ first
  last_on_line : last ≤ lineStop
  before_slice : Slice source first start before
  shown_slice : Slice source first last (before ++ inside.take contextWidth ++ after)
  before_short : before.length ≤ contextWidth
  after_short : after.length ≤ contextWidth

namespace Window

variable (window : Window source start stop)

/-- The piece of the line, with dots on the sides where text of the line was cut off. -/
def line : List Char :=
  dots (window.lineStart < window.first) ++
    (window.before ++ window.inside.take contextWidth ++ window.after) ++
    dots (window.last < window.lineStop)

/-- The place of the span in the piece. -/
def offset : Nat := (dots (window.lineStart < window.first) ++ window.before).length

/-- The marker for the line below the piece. -/
def marker : List Char :=
  List.replicate window.offset ' ' ++
    List.replicate (max 1 (min contextWidth window.inside.length)) '^'

theorem offset_le : window.offset ≤ 3 + contextWidth := by
  rw [offset, List.length_append]
  exact Nat.add_le_add (length_dots_le _) window.before_short

theorem length_line_le : window.line.length ≤ 66 := by
  have left := window.offset_le
  have right := length_dots_le (window.last < window.lineStop)
  have after := window.after_short
  rw [offset, List.length_append] at left
  simp only [line, List.length_append, List.length_take]
  rw [contextWidth] at *
  omega

theorem length_marker_le : window.marker.length ≤ 43 := by
  have left := window.offset_le
  rw [marker, List.length_append, List.length_replicate, List.length_replicate]
  rw [contextWidth] at *
  omega

/-- There is no line feed on a line. -/
theorem newline_not_mem_line : '\n' ∉ window.line := by
  obtain ⟨⟨front, front_slice, front_unbroken⟩, _⟩ := window.line_start
  obtain ⟨⟨back, back_slice, back_unbroken⟩, _⟩ := window.line_stop
  have shown : '\n' ∉ window.before ++ window.inside.take contextWidth ++ window.after := by
    intro mem
    have on_line := window.shown_slice.subset_of_le (front_slice.append back_slice)
      window.first_on_line window.last_on_line mem
    exact (List.mem_append.1 on_line).elim front_unbroken back_unbroken
  rw [line, List.mem_append, List.mem_append]
  rintro ((dot | mem) | dot)
  · exact newline_not_mem_dots _ dot
  · exact shown mem
  · exact newline_not_mem_dots _ dot

/-- The span stands in the piece from the offset on. -/
theorem take_drop_line : (window.line.drop window.offset).take
    (min contextWidth window.inside.length) = window.inside.take contextWidth := by
  have split : window.line = (dots (window.lineStart < window.first) ++ window.before) ++
      (window.inside.take contextWidth ++
        (window.after ++ dots (window.last < window.lineStop))) := by
    simp only [line, List.append_assoc]
  rw [split, offset, List.drop_left, ← List.length_take, List.take_left]

theorem getElem?_marker_iff {column : Nat} : window.marker[column]? = some '^' ↔
    window.offset ≤ column ∧
      column < window.offset + max 1 (min contextWidth window.inside.length) := by
  rw [marker, List.getElem?_append, List.length_replicate]
  split
  · next left =>
    rw [List.getElem?_replicate, if_pos left]
    simp [left]
  · next right =>
    rw [List.getElem?_replicate]
    split
    · next inside => 
      simp only [true_iff]
      omega
    · next outside =>
      simp only [false_iff, reduceCtorEq]
      omega

end Window

/-- What a report shows is a window. -/
theorem surroundings_window {piece : List Char} (slice : Slice source start stop piece) :
    ∃ window : Window source start stop,
      surroundings source.toList start stop = (window.line, window.marker) := by
  obtain ⟨lineStart, lineStop, starts, stops, _, before_slice, inside_slice, after_slice⟩ :=
    lineInBounds slice
  rw [surroundings]
  generalize lineParts source.toList start stop = parts at *
  obtain ⟨text, inside, rest⟩ := parts
  simp only at before_slice inside_slice after_slice ⊢
  obtain ⟨first, before, on_line, kept_slice, short, kept⟩ := keepEnd_slice before_slice
  split
  -- The span is cut, and what stands behind it is not shown.
  · next long =>
    obtain ⟨last, behind, cut_slice, is_cut, cut⟩ := keepStart_slice inside_slice
    have missing : last < lineStop := (is_cut long).trans_le after_slice.start_le_stop
    refine ⟨⟨lineStart, lineStop, starts, stops, inside, inside_slice, first, last, before, [],
      on_line, missing.le, kept_slice, ?_, short, Nat.zero_le _⟩, ?_⟩
    · rw [List.append_nil]
      exact kept_slice.append cut_slice
    · simp only [Window.line, Window.marker, Window.offset, kept, cut, dots, if_pos missing,
        if_pos (is_cut long), List.append_assoc, List.nil_append]
  · next fits =>
    obtain ⟨last, behind, cut_slice, _, cut⟩ := keepStart_slice after_slice
    have all : inside.take contextWidth = inside := List.take_of_length_le (Nat.not_lt.1 fits)
    refine ⟨⟨lineStart, lineStop, starts, stops, inside, inside_slice, first, last, before,
      rest.take contextWidth, on_line, behind, kept_slice, ?_, short, List.length_take_le _ _⟩, ?_⟩
    · rw [all]
      exact (kept_slice.append inside_slice).append cut_slice
    · simp only [Window.line, Window.marker, Window.offset, kept, cut, all, List.append_assoc]

/-- A report with a given piece and marker. -/
def layout (start : Nat) (message : String) (line marker : List Char) : String :=
  "Query compilation failed, error at position " ++ toString start ++ ":\n  " ++ message ++
    "\n\nSurrounding text:\n  " ++ String.ofList line ++ "\n  " ++ String.ofList marker

theorem length_layout_le {message : String} {line marker : List Char}
    (message_short : message.length ≤ 203) (line_short : line.length ≤ 66)
    (marker_short : marker.length ≤ 43) :
    (layout start message line marker).length ≤ 385 + (toString start).length := by
  unfold layout
  simp only [String.length_append, String.length_ofList]
  have words : "Query compilation failed, error at position ".length + ":\n  ".length +
      "\n\nSurrounding text:\n  ".length + "\n  ".length = 73 := by decide
  omega

theorem reportOn_empty (start stop : Nat) (message : String) :
    reportOn "" start stop message = layout start message "(empty input)".toList [] := by
  unfold reportOn layout
  rw [if_pos (by decide)]

theorem reportOn_window {message : String} (some_ : source ≠ "") {window : Window source start stop}
    (shows : surroundings source.toList start stop = (window.line, window.marker)) :
    reportOn source start stop message = layout start message window.line window.marker := by
  unfold reportOn layout
  rw [if_neg (by simpa using some_), shows]

end CompileError

open CompileError in
/-- Reports are short, of one line and aligned, for every text, every span between two boundaries of
characters and every message.  The message is cut to 203 characters.  The report shows a window on
the line at the start of the span: at most 66 characters and no line feed, with the marker at most
43 characters.  The carets are below the first characters of the part of the span on the line, at
most 20 of them, or there is one at the start of the span.  All in all there are at most 385
characters and the digits of the position.  Every error with a cause of this text has this message
and this report. -/
theorem report_bounded (source text : String) {start stop : Nat} (ordered : start ≤ stop)
    (start_boundary : String.Pos.Raw.IsValid source ⟨start⟩)
    (stop_boundary : String.Pos.Raw.IsValid source ⟨stop⟩) :
    (cutTo messageWidth text).length ≤ 203 ∧
    (reportOn source start stop (cutTo messageWidth text)).length ≤ 385 + (toString start).length ∧
    (source ≠ "" → ∃ window : Window source start stop,
      reportOn source start stop (cutTo messageWidth text) =
        layout start (cutTo messageWidth text) window.line window.marker ∧
      window.line.length ≤ 66 ∧ '\n' ∉ window.line ∧ window.marker.length ≤ 43 ∧
      (window.line.drop window.offset).take (min 20 window.inside.length) =
        window.inside.take 20 ∧
      ∀ column, window.marker[column]? = some '^' ↔
        window.offset ≤ column ∧ column < window.offset + max 1 (min 20 window.inside.length)) ∧
    ∀ cause : Cause, cause.text = text → cause.message = cutTo messageWidth text ∧
      report ⟨source, start, stop, cause⟩ =
        reportOn source start stop (cutTo messageWidth text) := by
  have short := length_cutTo_le messageWidth text
  obtain ⟨piece, slice⟩ := Text.exists_slice ordered start_boundary stop_boundary
  obtain ⟨window, shows⟩ := surroundings_window slice
  refine ⟨short, ?_, ?_, ?_⟩
  · by_cases empty : source = ""
    · subst empty
      rw [reportOn_empty]
      exact length_layout_le short (by decide) (by decide)
    · rw [reportOn_window empty shows]
      exact length_layout_le short window.length_line_le window.length_marker_le
  · intro some_
    exact ⟨window, reportOn_window some_ shows, window.length_line_le, window.newline_not_mem_line,
      window.length_marker_le, window.take_drop_line, fun _ => window.getElem?_marker_iff⟩
  · rintro cause rfl
    exact ⟨rfl, rfl⟩

open CompileError in
/-- The span takes up a character of two bytes, the line feed behind it and a character of the next
line.  Only the first of the three is marked. -/
theorem report_bounded_broken :
    String.Pos.Raw.IsValid "n == ß\n+ 1" ⟨5⟩ ∧ String.Pos.Raw.IsValid "n == ß\n+ 1" ⟨9⟩ ∧
    surroundings "n == ß\n+ 1".toList 5 9 = ("n == ß".toList, "     ^".toList) ∧
    (reportOn "n == ß\n+ 1" 5 9 (cutTo messageWidth "boom")).length ≤ 385 + (toString 5).length ∧
    ∃ window : Window "n == ß\n+ 1" 5 9, window.line.length ≤ 66 ∧ '\n' ∉ window.line := by
  have start_boundary : String.Pos.Raw.IsValid "n == ß\n+ 1" ⟨5⟩ := by decide
  have stop_boundary : String.Pos.Raw.IsValid "n == ß\n+ 1" ⟨9⟩ := by decide
  obtain ⟨_, short, shows, _⟩ :=
    report_bounded "n == ß\n+ 1" "boom" (by decide) start_boundary stop_boundary
  obtain ⟨window, _, line_short, unbroken, _⟩ := shows (by decide)
  exact ⟨start_boundary, stop_boundary, by decide, short, window, line_short, unbroken⟩

end RecordQuery
