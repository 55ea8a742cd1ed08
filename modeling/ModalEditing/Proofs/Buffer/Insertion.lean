import ModalEditing.Proofs.Buffer.Flat

namespace ModalEditing

namespace Text

theorem splitLines_break_cons (text : Text) :
    splitLines ('\n' :: text) = [] :: splitLines text := by
  rw [splitLines, List.splitOn_cons_eq_if_modifyHead,
    if_pos (beq_self_eq_true '\n')]
  rfl

theorem splitLines_cons {c : Char} (whole : c ≠ '\n') (text : Text) :
    splitLines (c :: text) = (splitLines text).modifyHead (c :: ·) := by
  rw [splitLines, List.splitOn_cons_eq_if_modifyHead,
    if_neg (by simpa using whole)]
  rfl

end Text

namespace Buffer

open Text

variable {buffer : Buffer} {p : Position} {c : Char} {above : List Line}
  {left right : Line} {below : List Line}

/-! Inserting a text is inserting its characters one after the other. -/

theorem graft_cons (left right first : Line) {pieces : List Line}
    (nonempty : pieces ≠ []) :
    graft left right (first :: pieces) =
      (left ++ first) :: graft [] right pieces := by
  obtain ⟨second, rest, rfl⟩ := List.exists_cons_of_ne_nil nonempty
  rfl

theorem behind_cons (p : Position) (first : Line) {pieces : List Line}
    (nonempty : pieces ≠ []) :
    behind p (first :: pieces) = behind ⟨p.line + 1, 0⟩ pieces := by
  rcases one_or_more nonempty with ⟨only, rfl⟩ | ⟨second, middle, last, rfl⟩
  · simp [behind]
  · rw [← List.cons_append, behind_cons_concat, List.cons_append,
      behind_cons_concat, List.length_cons, Nat.add_right_comm p.line 1]
    rfl

theorem graft_modifyHead_cons (left right : Line) (c : Char)
    {pieces : List Line} (nonempty : pieces ≠ []) :
    graft left right (pieces.modifyHead (c :: ·)) =
      graft (left ++ [c]) right pieces := by
  obtain ⟨first, rest, rfl⟩ := List.exists_cons_of_ne_nil nonempty
  cases rest with
  | nil => simp
  | cons second rest => simp [graft]

theorem behind_modifyHead_cons (p : Position) (c : Char) {pieces : List Line}
    (nonempty : pieces ≠ []) :
    behind p (pieces.modifyHead (c :: ·)) =
      behind ⟨p.line, p.col + 1⟩ pieces := by
  obtain ⟨first, rest, rfl⟩ := List.exists_cons_of_ne_nil nonempty
  cases rest with
  | nil =>
      rw [List.modifyHead_cons, behind_singleton, behind_singleton,
        List.length_cons, Nat.add_right_comm, Nat.add_assoc]
  | cons second rest => rfl

theorem insertText_nil (gap : buffer.hasGap p = true) :
    buffer.insertText p [] = (buffer, p) := by
  obtain ⟨above, left, right, below, rfl, rfl⟩ := exists_cut gap
  rw [insertText_cut, splitLines_nil]
  simp [cut]

theorem insertText_cut_char (whole : c ≠ '\n') :
    (cut above left right below).insertText ⟨above.length, left.length⟩ [c] =
      (cut above (left ++ [c]) right below,
        ⟨above.length, (left ++ [c]).length⟩) := by
  rw [insertText_cut, splitLines_cons whole]
  simp [cut]

theorem insertText_cut_break :
    (cut above left right below).insertText ⟨above.length, left.length⟩ ['\n'] =
      (cut (above ++ [left]) [] right below,
        ⟨(above ++ [left]).length, 0⟩) := by
  rw [insertText_cut, splitLines_break_cons]
  simp [cut, graft, behind]

theorem insertText_cons (gap : buffer.hasGap p = true) (c : Char)
    (text : Text) :
    buffer.insertText p (c :: text) =
      (buffer.insertText p [c]).1.insertText
        (buffer.insertText p [c]).2 text := by
  obtain ⟨above, left, right, below, rfl, rfl⟩ := exists_cut gap
  have nonempty := splitLines_ne_nil text
  by_cases line : c = '\n'
  · subst line
    have next := insertText_cut (above ++ [left]) [] right below text
    rw [insertText_cut_break, insertText_cut, splitLines_break_cons,
      graft_cons _ _ _ nonempty, behind_cons _ _ nonempty]
    simpa using next.symm
  · rw [insertText_cut_char line, insertText_cut, insertText_cut,
      splitLines_cons line, graft_modifyHead_cons _ _ _ nonempty,
      behind_modifyHead_cons _ _ nonempty, List.length_append]
    rfl

theorem insertText_append (gap : buffer.hasGap p = true) (first second : Text) :
    buffer.insertText p (first ++ second) =
      (buffer.insertText p first).1.insertText (buffer.insertText p first).2
        second := by
  induction first generalizing buffer p with
  | nil => rw [insertText_nil gap, List.nil_append]
  | cons c rest ih =>
      rw [List.cons_append, insertText_cons gap, ih (hasGap_insertText gap [c]),
        ← insertText_cons gap]

theorem insertChar?_eq (gap : buffer.hasGap p = true) (whole : c ≠ '\n') :
    buffer.insertChar? p c = some (buffer.insertText p [c]).1 ∧
      (buffer.insertText p [c]).2 = ⟨p.line, p.col + 1⟩ := by
  obtain ⟨above, left, right, below, rfl, rfl⟩ := exists_cut gap
  rw [insertText_cut_char whole, insertChar?_cut]
  simp [cut]

theorem breakLine?_eq (gap : buffer.hasGap p = true) :
    buffer.breakLine? p = some (buffer.insertText p ['\n']).1 ∧
      (buffer.insertText p ['\n']).2 = ⟨p.line + 1, 0⟩ := by
  obtain ⟨above, left, right, below, rfl, rfl⟩ := exists_cut gap
  rw [insertText_cut_break, breakLine?_cut]
  simp [cut]

/--
Whether it is a character or a line break, what is inserted is what is deleted
before its end.
-/
theorem deleteBefore?_insertText (gap : buffer.hasGap p = true) (c : Char) :
    (buffer.insertText p [c]).1.deleteBefore? (buffer.insertText p [c]).2 =
      some (buffer, p) := by
  obtain ⟨above, left, right, below, rfl, rfl⟩ := exists_cut gap
  by_cases line : c = '\n'
  · subst line
    rw [insertText_cut_break]
    exact deleteBefore?_cut_line above left right below
  · rw [insertText_cut_char line, List.length_append]
    exact deleteBefore?_cut_char above left c right below

end Buffer

end ModalEditing
