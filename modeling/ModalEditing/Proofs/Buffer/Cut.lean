import Mathlib.Algebra.GroupWithZero.Nat
import ModalEditing.Buffer.Edit

namespace ModalEditing

namespace Text

/-!
Joined lines come apart at any run of lines: the lines above it each end with a
line break, and the lines below it each start with one.
-/

def above (lines : List Line) : Text :=
  lines.flatMap (· ++ ['\n'])

def below (lines : List Line) : Text :=
  lines.flatMap ('\n' :: ·)

@[simp] theorem above_nil : above [] = [] := rfl

@[simp] theorem above_cons (line : Line) (rest : List Line) :
    above (line :: rest) = line ++ '\n' :: above rest := by
  simp [above]

@[simp] theorem above_append (first second : List Line) :
    above (first ++ second) = above first ++ above second := by
  simp [above]

@[simp] theorem below_nil : below [] = [] := rfl

@[simp] theorem below_cons (line : Line) (rest : List Line) :
    below (line :: rest) = '\n' :: line ++ below rest := by
  simp [below]

theorem length_above (lines : List Line) :
    (above lines).length = (lines.map fun line => line.length + 1).sum := by
  induction lines with
  | nil => rfl
  | cons line rest ih =>
      simp only [above_cons, List.length_append, List.length_cons,
        List.map_cons, List.sum_cons, ih]
      omega

theorem joinLines_cons_eq_below (line : Line) (rest : List Line) :
    joinLines (line :: rest) = line ++ below rest := by
  induction rest generalizing line with
  | nil => simp
  | cons next rest ih => simp [ih next]

theorem joinLines_append_below {lines : List Line} (nonempty : lines ≠ [])
    (rest : List Line) :
    joinLines (lines ++ rest) = joinLines lines ++ below rest := by
  obtain ⟨line, others, rfl⟩ := List.exists_cons_of_ne_nil nonempty
  rw [List.cons_append, joinLines_cons_eq_below, joinLines_cons_eq_below]
  simp [below]

theorem joinLines_above_append {lines : List Line} (nonempty : lines ≠ [])
    (first : List Line) :
    joinLines (first ++ lines) = above first ++ joinLines lines := by
  induction first with
  | nil => rfl
  | cons line rest ih =>
      have following : rest ++ lines ≠ [] := by simp [nonempty]
      obtain ⟨next, others, split⟩ := List.exists_cons_of_ne_nil following
      rw [List.cons_append, split, joinLines_cons_cons, ← split, ih]
      simp

theorem joinLines_between {lines : List Line} (nonempty : lines ≠ [])
    (first rest : List Line) :
    joinLines (first ++ lines ++ rest) =
      above first ++ joinLines lines ++ below rest := by
  rw [joinLines_append_below (by simp [nonempty]),
    joinLines_above_append nonempty]

end Text

namespace Buffer

/-! Lines taken apart at one of them. -/

theorem lineText_of_lt {buffer : Buffer} {line : Nat}
    (within : line < buffer.lines.length) :
    buffer.lineText line = buffer.lines[line] := by
  simp [lineText, line?, within]

theorem length_take_lines {buffer : Buffer} {line : Nat}
    (within : line < buffer.lineCount) :
    (buffer.lines.take line).length = line :=
  List.length_take_of_le (Nat.le_of_lt within)

theorem lines_eq_at {buffer : Buffer} {line : Nat}
    (within : line < buffer.lineCount) :
    buffer.lines =
      buffer.lines.take line ++
        buffer.lineText line :: buffer.lines.drop (line + 1) := by
  change line < buffer.lines.length at within
  rw [lineText_of_lt within, ← List.drop_eq_getElem_cons, List.take_append_drop]

theorem lines_eq_around {buffer : Buffer} {line : Nat}
    (within : line + 1 < buffer.lineCount) :
    buffer.lines = buffer.lines.take line ++
      buffer.lineText line :: buffer.lineText (line + 1) ::
        buffer.lines.drop (line + 2) := by
  change line + 1 < buffer.lines.length at within
  rw [lineText_of_lt (Nat.lt_of_succ_lt within), lineText_of_lt within,
    ← List.drop_eq_getElem_cons, ← List.drop_eq_getElem_cons,
    List.take_append_drop]

/-!
A buffer cut at a place: lines above, a line in two parts, lines below. Every
place between characters gives such a cut, and there each edit is a
rearrangement of the parts.
-/

def cut (above : List Line) (left right : Line) (below : List Line) : Buffer :=
  ⟨above ++ (left ++ right) :: below⟩

@[simp] theorem lines_cut (above : List Line) (left right : Line)
    (below : List Line) :
    (cut above left right below).lines = above ++ (left ++ right) :: below :=
      rfl

@[simp] theorem lineCount_cut (above : List Line) (left right : Line)
    (below : List Line) :
    (cut above left right below).lineCount =
      above.length + below.length + 1 := by
  simp [lineCount]
  omega

@[simp] theorem lineText_cut (above : List Line) (left right : Line)
    (below : List Line) :
    (cut above left right below).lineText above.length = left ++ right := by
  simp [lineText, line?]

@[simp] theorem lineLength_cut (above : List Line) (left right : Line)
    (below : List Line) :
    (cut above left right below).lineLength above.length =
      left.length + right.length := by
  simp [lineLength]

@[simp] theorem hasGap_cut (above : List Line) (left right : Line)
    (below : List Line) :
    (cut above left right below).hasGap ⟨above.length, left.length⟩ = true := by
  have within : above.length < above.length + below.length + 1 := by omega
  rw [hasGap_iff, lineCount_cut, lineLength_cut]
  exact ⟨within, Nat.le_add_right _ _⟩

theorem exists_cut {buffer : Buffer} {p : Position}
    (gap : buffer.hasGap p = true) :
    ∃ above left right below,
      buffer = cut above left right below ∧
        p = ⟨above.length, left.length⟩ := by
  obtain ⟨line, col⟩ := p
  obtain ⟨within, inside⟩ := (hasGap_iff buffer ⟨line, col⟩).mp gap
  have bound : line < buffer.lines.length := within
  have text : buffer.lineText line = buffer.lines[line] := lineText_of_lt bound
  have fits : col ≤ buffer.lines[line].length := by
    rwa [lineLength, text] at inside
  refine ⟨buffer.lines.take line, buffer.lines[line].take col,
    buffer.lines[line].drop col, buffer.lines.drop (line + 1), ?_, ?_⟩
  · simp [cut]
  · simp [Nat.min_eq_left fits, Nat.min_eq_left (Nat.le_of_lt bound)]

theorem editLine_cut (above : List Line) (left right : Line) (below : List Line)
    (edit : Line → Line) :
    (cut above left right below).editLine above.length edit =
      ⟨above ++ edit (left ++ right) :: below⟩ := by
  simp [editLine, List.modify_eq_take_cons_drop]

theorem insertChar?_cut (above : List Line) (left right : Line)
    (below : List Line) (c : Char) :
    (cut above left right below).insertChar? ⟨above.length, left.length⟩ c =
      some (cut above left (c :: right) below) := by
  simp only [insertChar?, hasGap_cut, if_true, editLine_cut]
  simp [cut]

theorem breakLine?_cut (above : List Line) (left right : Line)
    (below : List Line) :
    (cut above left right below).breakLine? ⟨above.length, left.length⟩ =
      some ⟨above ++ left :: right :: below⟩ := by
  simp [breakLine?]

theorem deleteChar?_cut (above : List Line) (left : Line) (c : Char)
    (right : Line) (below : List Line) :
    (cut above left (c :: right) below).deleteChar?
        ⟨above.length, left.length⟩ =
      some (cut above left right below) := by
  have char :
      (cut above left (c :: right) below).hasChar ⟨above.length, left.length⟩ =
        true := by
    have within : above.length < above.length + below.length + 1 := by omega
    have inside : left.length < left.length + (right.length + 1) := by omega
    rw [hasChar_iff, lineCount_cut, lineLength_cut, List.length_cons]
    exact ⟨within, inside⟩
  simp only [deleteChar?, char, if_true, editLine_cut]
  simp [cut, List.eraseIdx_append_of_length_le]

theorem deleteBefore?_cut_char (above : List Line) (left : Line) (c : Char)
    (right : Line) (below : List Line) :
    (cut above (left ++ [c]) right below).deleteBefore?
        ⟨above.length, left.length + 1⟩ =
      some (cut above left right below, ⟨above.length, left.length⟩) := by
  have within :
      above.length < (cut above (left ++ [c]) right below).lineCount := by
    rw [lineCount_cut]
    omega
  simp only [deleteBefore?, within, if_true, editLine_cut]
  simp [cut, List.eraseIdx_append_of_length_le]

theorem deleteBefore?_cut_line (above : List Line) (upper right : Line)
    (below : List Line) :
    (cut (above ++ [upper]) [] right below).deleteBefore?
        ⟨(above ++ [upper]).length, 0⟩ =
      some (cut above upper right below, ⟨above.length, upper.length⟩) := by
  simp [deleteBefore?, cut, lineText, line?, lineCount]

theorem deleteBefore?_origin (buffer : Buffer) :
    buffer.deleteBefore? ⟨0, 0⟩ = none := by
  simp [deleteBefore?]

end Buffer

end ModalEditing
