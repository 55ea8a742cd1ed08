import ModalEditing.Proofs.Buffer.Cut

namespace ModalEditing.Buffer

open Text

/-!
Spans of a buffer. The text between two places is a list of pieces, one on each
line, and the buffer is the graft of these pieces between what is left of the
span and what is right of it. Deleting the span leaves a cut, and inserting at a
cut grafts the pieces of the inserted text.
-/

theorem one_or_more {pieces : List Line} (nonempty : pieces ≠ []) :
    (∃ only, pieces = [only]) ∨
      ∃ first middle last, pieces = first :: (middle ++ [last]) := by
  obtain ⟨first, rest, rfl⟩ := List.exists_cons_of_ne_nil nonempty
  rcases List.eq_nil_or_concat rest with rfl | ⟨middle, last, rfl⟩
  · exact Or.inl ⟨first, rfl⟩
  · exact Or.inr ⟨first, middle, last, by simp⟩

@[simp] theorem graft_singleton (left right only : Line) :
    graft left right [only] = [left ++ only ++ right] := rfl

@[simp] theorem graft_cons_concat (left right first : Line) (middle : List Line)
    (last : Line) :
    graft left right (first :: (middle ++ [last])) =
      (left ++ first) :: (middle ++ [last ++ right]) := by
  induction middle generalizing left first with
  | nil => simp [graft]
  | cons next middle ih =>
      rw [List.cons_append, graft, ih]
      simp

@[simp] theorem behind_singleton (p : Position) (only : Line) :
    behind p [only] = ⟨p.line, p.col + only.length⟩ := rfl

@[simp] theorem behind_cons_concat (p : Position) (first : Line)
    (middle : List Line) (last : Line) :
    behind p (first :: (middle ++ [last])) =
      ⟨p.line + middle.length + 1, last.length⟩ := by
  cases middle with
  | nil => rfl
  | cons next middle =>
      have tail :
          (next :: (middle ++ [last])).getLast (List.cons_ne_nil _ _) =
            last := by
        rw [List.getLast_cons (by simp), List.getLast_concat]
      simp only [List.cons_append, behind, tail]
      simp

theorem graft_ne_nil (left right : Line) (pieces : List Line) :
    graft left right pieces ≠ [] := by
  fun_cases graft left right pieces <;> simp

theorem exists_mem_graft (left right : Line) {pieces : List Line} {piece : Line}
    (member : piece ∈ pieces) :
    ∃ line ∈ graft left right pieces, piece <:+: line := by
  rcases one_or_more (List.ne_nil_of_mem member) with
      ⟨only, rfl⟩ | ⟨first, middle, last, rfl⟩
  · obtain rfl := List.mem_singleton.mp member
    exact ⟨left ++ piece ++ right, by simp, left, right, rfl⟩
  · rw [graft_cons_concat]
    simp only [List.mem_cons, List.mem_append, List.not_mem_nil,
      or_false] at member
    rcases member with rfl | inner | rfl
    · exact ⟨left ++ piece, by simp, left, [], by simp⟩
    · exact ⟨piece, by simp [inner], List.infix_rfl⟩
    · exact ⟨piece ++ right, by simp, [], right, rfl⟩

theorem joinLines_graft {pieces : List Line} (nonempty : pieces ≠ [])
    (left right : Line) :
    joinLines (graft left right pieces) =
      left ++ joinLines pieces ++ right := by
  rcases one_or_more nonempty with ⟨only, rfl⟩ | ⟨first, middle, last, rfl⟩
  · simp
  · have tail : middle ++ [last] ≠ [] := by simp
    rw [graft_cons_concat, joinLines_cons_eq_below, joinLines_cons_eq_below]
    simp [below]

theorem splitLines_ne_nil (text : Text) : splitLines text ≠ [] :=
  List.splitOn_ne_nil '\n' text

theorem insertText_cut (above : List Line) (left right : Line)
    (below : List Line) (text : Text) :
    (cut above left right below).insertText ⟨above.length, left.length⟩ text =
      (⟨above ++ graft left right (splitLines text) ++ below⟩,
        behind ⟨above.length, left.length⟩ (splitLines text)) := by
  have number :
      min above.length (cut above left right below).lastLine =
        above.length := by
    rw [lastLine, lineCount_cut]
    omega
  simp only [insertText, number, lineText_cut, List.length_append]
  simp

theorem lineText_block (above block below : List Line) {i : Nat}
    (within : i < block.length) :
    (Buffer.mk (above ++ block ++ below)).lineText (above.length + i) =
      block[i] := by
  rw [lineText_mk, List.append_assoc,
    List.getElem?_append_right (Nat.le_add_right _ _), Nat.add_sub_cancel_left,
    List.getElem?_append_left within, List.getElem?_eq_getElem within,
    Option.getD_some]

theorem forall_lineText_block_iff {P : Line → Prop}
    (above block below : List Line) :
    (∀ line, above.length ≤ line → line < above.length + block.length →
        P ((Buffer.mk (above ++ block ++ below)).lineText line)) ↔
      ∀ text ∈ block, P text := by
  constructor
  · intro every text member
    obtain ⟨i, within, rfl⟩ := List.getElem_of_mem member
    have holds := every (above.length + i) (Nat.le_add_right _ _) (by omega)
    rwa [lineText_block above block below within] at holds
  · intro every line lower upper
    obtain ⟨i, rfl⟩ := Nat.exists_eq_add_of_le lower
    have within : i < block.length := by omega
    rw [lineText_block above block below within]
    exact every block[i] (List.getElem_mem within)

/--
The place behind the character at a place, and at the end of a line the place
itself.
-/
def past (buffer : Buffer) (p : Position) : Position :=
  if buffer.hasChar p then ⟨p.line, p.col + 1⟩ else p

@[simp] theorem line_past (buffer : Buffer) (p : Position) :
    (buffer.past p).line = p.line := by
  unfold past
  split <;> rfl

/-- The parts of a buffer around the text from one place through another. -/
structure IsSpan (buffer : Buffer) (first last : Position) (above : List Line)
    (left : Line) (pieces : List Line) (right : Line)
    (below : List Line) : Prop where
  pieces_ne_nil : pieces ≠ []
  lines_eq : buffer.lines = above ++ graft left right pieces ++ below
  first_eq : first = ⟨above.length, left.length⟩
  behind_eq : behind first pieces = buffer.past last
  deleteSpan_eq : buffer.deleteSpan first last =
    (cut above left right below, joinLines pieces)

private theorem exists_span_of_line_eq (above : List Line) (left rest : Line)
    (below : List Line) {col : Nat} (ordered : left.length ≤ col)
    (inside : col ≤ left.length + rest.length) :
    ∃ pieces right, IsSpan (cut above left rest below)
      ⟨above.length, left.length⟩ ⟨above.length, col⟩ above left pieces
      right below := by
  have text : ((left ++ rest).drop (max left.length (col + 1))) =
      rest.drop (col + 1 - left.length) := by
    rw [Nat.max_eq_right (by omega), List.drop_append,
      List.drop_eq_nil_of_le (by omega)]
    rfl
  refine ⟨[rest.take (col + 1 - left.length)],
    rest.drop (col + 1 - left.length), ?_⟩
  constructor
  · simp
  · simp
  · rfl
  · simp only [behind_singleton, past, hasChar_iff, lineCount_cut,
      lineLength_cut, List.length_take]
    split <;> simp <;> omega
  · simp only [deleteSpan, spanText, if_true, deleteColumns, editLine_cut,
      lineText_cut, text]
    simp [cut]

private theorem exists_upper_lines (above : List Line) (left right : Line)
    (middle : List Line) (line : Line) (below : List Line) :
    ∃ upper, (cut above left right (middle ++ line :: below)).lines =
        upper ++ line :: below ∧
      above.length + middle.length + 1 = upper.length ∧
      upper.drop (above.length + 1) = middle := by
  refine ⟨above ++ (left ++ right) :: middle, by simp, ?_, by simp⟩
  simp [Nat.add_assoc]

theorem lineText_cut_below (above : List Line) (left right : Line)
    (middle : List Line) (line : Line) (below : List Line) :
    (cut above left right (middle ++ line :: below)).lineText
        (above.length + middle.length + 1) =
      line := by
  obtain ⟨upper, lines, size, _⟩ :=
    exists_upper_lines above left right middle line below
  rw [lineText, line?, lines, size]
  simp

private theorem exists_span_of_line_lt (above : List Line) (left rest : Line)
    (middle : List Line) (line : Line) (below : List Line) {col : Nat}
    (inside : col ≤ line.length) :
    ∃ pieces right, IsSpan (cut above left rest (middle ++ line :: below))
      ⟨above.length, left.length⟩ ⟨above.length + middle.length + 1, col⟩
      above left pieces right below := by
  have distinct : above.length ≠ above.length + middle.length + 1 := by omega
  have text := lineText_cut_below above left rest middle line below
  obtain ⟨upper, lines, size, between⟩ :=
    exists_upper_lines above left rest middle line below
  have lower : (cut above left rest (middle ++ line :: below)).lines.drop
      (above.length + middle.length + 1 + 1) = below := by
    rw [lines, size]
    simp
  have inner : ((cut above left rest (middle ++ line :: below)).lines.take
      (above.length + middle.length + 1)).drop (above.length + 1) = middle := by
    rw [lines, size, List.take_left, between]
  refine ⟨rest :: (middle ++ [line.take (col + 1)]), line.drop (col + 1), ?_⟩
  constructor
  · simp
  · simp
  · rfl
  · simp only [behind_cons_concat, past, hasChar_iff, lineCount_cut, lineLength,
      text, List.length_take, List.length_append, List.length_cons]
    split <;> simp <;> omega
  · simp only [deleteSpan, spanText, distinct, if_false, lineText_cut, text,
      lower, inner]
    simp [cut]

private theorem exists_lower_line {number line : Nat} {below : List Line}
    (earlier : number < line) (within : line < number + below.length + 1) :
    ∃ middle text rest, below = middle ++ text :: rest ∧
      line = number + middle.length + 1 := by
  have bound : line - number - 1 < below.length := by omega
  refine ⟨below.take (line - number - 1), below[line - number - 1],
    below.drop (line - number - 1 + 1), by simp, ?_⟩
  rw [List.length_take]
  omega

theorem exists_span {buffer : Buffer} {first last : Position}
    (start : buffer.hasGap first = true) (stop : buffer.hasGap last = true)
    (ordered : first ≤ last) :
    ∃ above left pieces right below,
      IsSpan buffer first last above left pieces right below := by
  obtain ⟨above, left, rest, below, rfl, rfl⟩ := exists_cut start
  obtain ⟨line, col⟩ := last
  obtain ⟨within, inside⟩ := (hasGap_iff _ _).mp stop
  simp only [lineCount_cut] at within inside
  rcases (Position.le_def _ _).mp ordered with earlier | ⟨same, before⟩
  · obtain ⟨middle, text, lower, rfl, rfl⟩ := exists_lower_line earlier within
    rw [lineLength, lineText_cut_below] at inside
    obtain ⟨pieces, right, span⟩ :=
      exists_span_of_line_lt above left rest middle text lower inside
    exact ⟨above, left, pieces, right, lower, span⟩
  · subst same
    rw [lineLength_cut] at inside
    obtain ⟨pieces, right, span⟩ :=
      exists_span_of_line_eq above left rest below before inside
    exact ⟨above, left, pieces, right, below, span⟩

namespace IsSpan

variable {buffer : Buffer} {first last : Position} {above : List Line}
  {left : Line} {pieces : List Line} {right : Line} {below : List Line}

theorem length_graft_eq
    (span : IsSpan buffer first last above left pieces right below) :
    above.length + (graft left right pieces).length = last.line + 1 := by
  have line := congrArg Position.line span.behind_eq
  rw [line_past, span.first_eq] at line
  rcases one_or_more span.pieces_ne_nil with
      ⟨only, rfl⟩ | ⟨head, middle, tail, rfl⟩
  · rw [behind_singleton] at line
    rw [graft_singleton, ← line, List.length_singleton]
  · rw [behind_cons_concat] at line
    rw [graft_cons_concat, ← line]
    simp
    omega

theorem forall_lineText_iff
    (span : IsSpan buffer first last above left pieces right below)
    {P : Line → Prop} :
    (∀ line, first.line ≤ line → line ≤ last.line → P (buffer.lineText line)) ↔
      ∀ text ∈ graft left right pieces, P text := by
  obtain ⟨lines⟩ := buffer
  obtain rfl : lines = _ := span.lines_eq
  rw [← forall_lineText_block_iff above _ below, span.length_graft_eq,
    span.first_eq]
  simp only [Nat.lt_succ_iff]

variable {head : Line} {middle : List Line} {tail : Line}

theorem lineText_first
    (span : IsSpan buffer first last above left (head :: (middle ++ [tail]))
      right below) : buffer.lineText first.line = left ++ head := by
  obtain ⟨lines⟩ := buffer
  obtain rfl : lines = _ := span.lines_eq
  rw [span.first_eq]
  simp

theorem lineText_last
    (span : IsSpan buffer first last above left (head :: (middle ++ [tail]))
      right below) : buffer.lineText last.line = tail ++ right := by
  have number := span.length_graft_eq
  obtain ⟨lines⟩ := buffer
  obtain rfl : lines = _ := span.lines_eq
  have stop :=
    lineText_block above (graft left right (head :: (middle ++ [tail]))) below
      (i := middle.length + 1) (by simp)
  have same : last.line = above.length + (middle.length + 1) := by
    simp at number
    omega
  rw [same, stop]
  simp

end IsSpan

end ModalEditing.Buffer
