import Mathlib.Data.List.Basic
import ModalEditing.Proofs.Buffer.Span

namespace ModalEditing

namespace Text

def splice (text : Text) (index : Nat) (inserted : Text) : Text :=
  text.take index ++ inserted ++ text.drop index

theorem splice_append (first second inserted : Text) :
    splice (first ++ second) first.length inserted =
      first ++ inserted ++ second := by
  simp [splice]

theorem length_splice (text : Text) (index : Nat) (inserted : Text) :
    (splice text index inserted).length = text.length + inserted.length := by
  unfold splice
  simp only [List.length_append, List.length_take, List.length_drop]
  omega

theorem getElem?_splice_last {text inserted : Text} {index : Nat}
    (within : index ≤ text.length) (nonempty : inserted ≠ []) :
    (splice text index inserted)[index + inserted.length - 1]? =
      inserted.getLast? := by
  have positive := List.length_pos_iff.mpr nonempty
  have before : (text.take index).length = index :=
    List.length_take_of_le within
  have last : index + inserted.length - 1 - index = inserted.length - 1 := by
    omega
  rw [splice, List.append_assoc, List.getElem?_append_right (by omega), before,
    List.getElem?_append_left (by omega), List.getLast?_eq_getElem?, last]

def slice (text : Text) (start stop : Nat) : Text :=
  (text.take stop).drop start

theorem slice_append (first middle last : Text) :
    slice (first ++ (middle ++ last)) first.length
      (first.length + middle.length) = middle := by
  simp [slice, List.take_append]

end Text

namespace Buffer

open Text

/-!
The flat text of a buffer, and where its places are in it. Every edit of lines
is one edit of the flat text at the offset of its place.
-/

/-- The characters before a place, each line break above it counted as one. -/
def offset (buffer : Buffer) (p : Position) : Nat :=
  ((buffer.lines.take p.line).map fun line => line.length + 1).sum + p.col

theorem text_cut (above : List Line) (left right : Line) (below : List Line) :
    (cut above left right below).text =
      (Text.above above ++ left) ++ (right ++ Text.below below) := by
  have shape :
      above ++ (left ++ right) :: below =
        above ++ [left ++ right] ++ below := by
    simp
  rw [text, lines_cut, shape, joinLines_between (List.cons_ne_nil _ _)]
  simp

theorem offset_cut (above : List Line) (left right : Line) (below : List Line) :
    (cut above left right below).offset ⟨above.length, left.length⟩ =
      (Text.above above ++ left).length := by
  simp [offset, length_above]

theorem offset_le_length {buffer : Buffer} {p : Position}
    (gap : buffer.hasGap p = true) : buffer.offset p ≤ buffer.text.length := by
  obtain ⟨above, left, right, below, rfl, rfl⟩ := exists_cut gap
  rw [offset_cut, text_cut]
  exact (List.prefix_append _ _).length_le

theorem char?_of_text {buffer : Buffer} {p : Position} {c : Char}
    (gap : buffer.hasGap p = true) (positive : 0 < buffer.offset p)
    (before : buffer.text[buffer.offset p - 1]? = some c) (whole : c ≠ '\n') :
    buffer.char? ⟨p.line, p.col - 1⟩ = some c ∧
      buffer.offset ⟨p.line, p.col - 1⟩ = buffer.offset p - 1 := by
  obtain ⟨above, left, right, below, rfl, rfl⟩ := exists_cut gap
  have index := offset_cut above left right below
  rw [index] at positive
  rw [index, text_cut, List.getElem?_append_left (by omega),
    ← List.getLast?_eq_getElem?] at before
  rcases List.eq_nil_or_concat' left with rfl | ⟨front, d, rfl⟩
  · rcases List.eq_nil_or_concat' above with rfl | ⟨upper, line, rfl⟩
    · simp at positive
    · simp [whole.symm] at before
  · rw [index]
    simp_all [char?, offset, Text.length_above]

theorem text_graft {pieces : List Line} (nonempty : pieces ≠ [])
    (above : List Line) (left right : Line) (below : List Line) :
    text ⟨above ++ graft left right pieces ++ below⟩ =
      (Text.above above ++ left) ++
        (joinLines pieces ++ (right ++ Text.below below)) := by
  rw [text, joinLines_between (graft_ne_nil left right pieces),
    joinLines_graft nonempty]
  simp

theorem offset_behind {pieces : List Line} (nonempty : pieces ≠ [])
    (above : List Line) (left right : Line) (below : List Line) :
    offset ⟨above ++ graft left right pieces ++ below⟩
        (behind ⟨above.length, left.length⟩ pieces) =
      (Text.above above ++ left).length + (joinLines pieces).length := by
  rcases one_or_more nonempty with ⟨only, rfl⟩ | ⟨first, middle, last, rfl⟩
  · simp [offset, length_above, Nat.add_assoc]
  · have joined : joinLines (first :: (middle ++ [last])) =
        Text.above (first :: middle) ++ last := by
      rw [← List.cons_append, joinLines_above_append (List.cons_ne_nil _ _),
        joinLines_singleton]
    have shape :
        above ++ graft left right (first :: (middle ++ [last])) ++ below =
          (above ++ (left ++ first) :: middle) ++ (last ++ right) :: below := by
      simp
    have size : above.length + middle.length + 1 =
        (above ++ (left ++ first) :: middle).length := by simp [Nat.add_assoc]
    simp only [offset, shape, behind_cons_concat, size, List.take_left, joined,
      ← length_above]
    simp
    omega

theorem hasGap_behind {pieces : List Line} (nonempty : pieces ≠ [])
    (above : List Line) (left right : Line) (below : List Line) :
    hasGap ⟨above ++ graft left right pieces ++ below⟩
      (behind ⟨above.length, left.length⟩ pieces) = true := by
  rcases one_or_more nonempty with ⟨only, rfl⟩ | ⟨first, middle, last, rfl⟩
  · have gap := hasGap_cut above (left ++ only) right below
    simpa [cut] using gap
  · have gap := hasGap_cut (above ++ (left ++ first) :: middle) last right below
    simpa [cut, Nat.add_assoc] using gap

theorem offset_past (buffer : Buffer) (p : Position) :
    buffer.offset (buffer.past p) = buffer.offset p + if buffer.hasChar p then
      1 else 0 := by
  unfold past
  split <;> simp [offset, Nat.add_assoc]

/-! Insertions. -/

theorem text_insertText {buffer : Buffer} {p : Position}
    (gap : buffer.hasGap p = true) (inserted : Text) :
    (buffer.insertText p inserted).1.text =
      splice buffer.text (buffer.offset p) inserted := by
  obtain ⟨above, left, right, below, rfl, rfl⟩ := exists_cut gap
  rw [insertText_cut, text_graft (splitLines_ne_nil inserted), text_cut,
    offset_cut, splice_append, joinLines_splitLines]
  simp

theorem offset_insertText {buffer : Buffer} {p : Position}
    (gap : buffer.hasGap p = true) (inserted : Text) :
    (buffer.insertText p inserted).1.offset (buffer.insertText p inserted).2 =
      buffer.offset p + inserted.length := by
  obtain ⟨above, left, right, below, rfl, rfl⟩ := exists_cut gap
  rw [insertText_cut, offset_behind (splitLines_ne_nil inserted), offset_cut,
    joinLines_splitLines]

theorem hasGap_insertText {buffer : Buffer} {p : Position}
    (gap : buffer.hasGap p = true) (inserted : Text) :
    (buffer.insertText p inserted).1.hasGap (buffer.insertText p inserted).2 =
      true := by
  obtain ⟨above, left, right, below, rfl, rfl⟩ := exists_cut gap
  rw [insertText_cut]
  exact hasGap_behind (splitLines_ne_nil inserted) above left right below

theorem exists_insertChar? {buffer : Buffer} {p : Position}
    (gap : buffer.hasGap p = true) (c : Char) :
    ∃ next, buffer.insertChar? p c = some next ∧
      next.text = splice buffer.text (buffer.offset p) [c] := by
  obtain ⟨above, left, right, below, rfl, rfl⟩ := exists_cut gap
  refine ⟨_, insertChar?_cut above left right below c, ?_⟩
  rw [text_cut, text_cut, offset_cut, splice_append]
  simp

theorem exists_breakLine? {buffer : Buffer} {p : Position}
    (gap : buffer.hasGap p = true) :
    ∃ next, buffer.breakLine? p = some next ∧
      next.text = splice buffer.text (buffer.offset p) ['\n'] := by
  obtain ⟨above, left, right, below, rfl, rfl⟩ := exists_cut gap
  refine ⟨_, breakLine?_cut above left right below, ?_⟩
  have shape :
      above ++ left :: right :: below = above ++ [left, right] ++ below := by
    simp
  rw [text_cut, offset_cut, splice_append, text, shape,
    joinLines_between (List.cons_ne_nil _ _)]
  simp

/-! Deletions. -/

theorem eraseIdx_append_cons (first : Text) (c : Char) (second : Text) :
    (first ++ c :: second).eraseIdx first.length = first ++ second := by
  simp [List.eraseIdx_append_of_length_le]

theorem exists_deleteChar? {buffer : Buffer} {p : Position}
    (char : buffer.hasChar p = true) :
    ∃ next, buffer.deleteChar? p = some next ∧
      next.text = buffer.text.eraseIdx (buffer.offset p) := by
  have gap : buffer.hasGap p = true := by
    obtain ⟨within, inside⟩ := (hasChar_iff buffer p).mp char
    exact (hasGap_iff buffer p).mpr ⟨within, Nat.le_of_lt inside⟩
  obtain ⟨above, left, right, below, rfl, rfl⟩ := exists_cut gap
  obtain ⟨_, inside⟩ := (hasChar_iff _ _).mp char
  cases right with
  | nil => simp at inside
  | cons c right =>
      refine ⟨_, deleteChar?_cut above left c right below, ?_⟩
      rw [text_cut, text_cut, offset_cut, List.cons_append,
        eraseIdx_append_cons]

theorem exists_deleteBefore? {buffer : Buffer} {p : Position}
    (gap : buffer.hasGap p = true) (positive : 0 < buffer.offset p) :
    ∃ next q, buffer.deleteBefore? p = some (next, q) ∧
      next.text = buffer.text.eraseIdx (buffer.offset p - 1) ∧
      next.hasGap q = true ∧ next.offset q = buffer.offset p - 1 := by
  obtain ⟨above, left, right, below, rfl, rfl⟩ := exists_cut gap
  have flat := text_cut above left right below
  have index := offset_cut above left right below
  rcases List.eq_nil_or_concat' left with rfl | ⟨front, c, rfl⟩
  · rcases List.eq_nil_or_concat' above with rfl | ⟨upper, line, rfl⟩
    · simp [offset] at positive
    · have split :
          Text.above (upper ++ [line]) ++ [] ++ (right ++ Text.below below) =
            (Text.above upper ++ line) ++
              '\n' :: (right ++ Text.below below) := by simp
      have before : (Text.above (upper ++ [line]) ++ []).length - 1 =
          (Text.above upper ++ line).length := by simp
      refine ⟨_, _, deleteBefore?_cut_line upper line right below, ?_,
        hasGap_cut _ _ _ _, ?_⟩
      · rw [flat, index, before, split, eraseIdx_append_cons, text_cut]
      · rw [index, before, offset_cut]
  · have split :
        Text.above above ++ (front ++ [c]) ++ (right ++ Text.below below) =
          (Text.above above ++ front) ++ c :: (right ++ Text.below below) := by
      simp
    have before : (Text.above above ++ (front ++ [c])).length - 1 =
        (Text.above above ++ front).length := by
      simp
    rw [List.length_append, List.length_singleton] at index ⊢
    refine ⟨_, _, deleteBefore?_cut_char above front c right below, ?_,
      hasGap_cut _ _ _ _, ?_⟩
    · rw [flat, index, before, split, eraseIdx_append_cons, text_cut]
    · rw [index, before, offset_cut]

theorem deleteBefore?_eq_none {buffer : Buffer} {p : Position}
    (gap : buffer.hasGap p = true) (zero : buffer.offset p = 0) :
    buffer.deleteBefore? p = none := by
  obtain ⟨above, left, right, below, rfl, rfl⟩ := exists_cut gap
  rw [offset_cut, List.length_append, length_above] at zero
  have leftmost : left = [] := List.length_eq_zero_iff.mp (by omega)
  cases above with
  | nil =>
      subst leftmost
      exact deleteBefore?_origin _
  | cons line above => simp at zero

/-! Spans. -/

namespace IsSpan

variable {buffer : Buffer} {first last : Position} {above : List Line}
  {left : Line} {pieces : List Line} {right : Line} {below : List Line}

theorem unbroken_pieces
    (span : IsSpan buffer first last above left pieces right below)
    (unbroken : ∀ line ∈ buffer.lines, '\n' ∉ line) :
    ∀ piece ∈ pieces, '\n' ∉ piece := by
  intro piece member broken
  obtain ⟨line, grafted, part⟩ := exists_mem_graft left right member
  refine unbroken line ?_ (part.subset broken)
  rw [span.lines_eq]
  simp [grafted]

theorem text_eq
    (span : IsSpan buffer first last above left pieces right below) :
    buffer.text =
      (Text.above above ++ left) ++
        (joinLines pieces ++ (right ++ Text.below below)) := by
  obtain ⟨lines⟩ := buffer
  obtain rfl : lines = _ := span.lines_eq
  exact text_graft span.pieces_ne_nil above left right below

theorem offset_first
    (span : IsSpan buffer first last above left pieces right below) :
    buffer.offset first = (Text.above above ++ left).length := by
  simp [span.first_eq, offset, span.lines_eq, length_above]

theorem offset_stop
    (span : IsSpan buffer first last above left pieces right below) :
    buffer.offset (buffer.past last) =
      (Text.above above ++ left).length + (joinLines pieces).length := by
  rw [← span.behind_eq, span.first_eq]
  obtain ⟨lines⟩ := buffer
  obtain rfl : lines = _ := span.lines_eq
  exact offset_behind span.pieces_ne_nil above left right below

theorem text_deleteSpan
    (span : IsSpan buffer first last above left pieces right below) :
    (buffer.deleteSpan first last).1.text =
      buffer.text.take (buffer.offset first) ++
        buffer.text.drop (buffer.offset (buffer.past last)) := by
  rw [span.deleteSpan_eq, text_cut, span.offset_first, span.offset_stop,
    span.text_eq, List.take_left, List.drop_append, ← List.drop_drop]
  simp

theorem deleted_eq_slice
    (span : IsSpan buffer first last above left pieces right below) :
    (buffer.deleteSpan first last).2 =
      slice buffer.text (buffer.offset first)
        (buffer.offset (buffer.past last)) := by
  rw [span.deleteSpan_eq, span.offset_first, span.offset_stop, span.text_eq,
    slice_append]

theorem insertText_deleteSpan
    (span : IsSpan buffer first last above left pieces right below)
    (unbroken : ∀ line ∈ buffer.lines, '\n' ∉ line) :
    ((buffer.deleteSpan first last).1.insertText
        first (buffer.deleteSpan first last).2).1 =
      buffer := by
  rw [span.deleteSpan_eq, span.first_eq, insertText_cut,
    splitLines_joinLines span.pieces_ne_nil (span.unbroken_pieces unbroken),
    ← span.lines_eq]

end IsSpan

/--
Edits at the places of a buffer are edits of its flat text at the offsets of the
places.
-/
theorem edits_splice_text (buffer : Buffer) :
    (∀ p, buffer.hasGap p = true →
      (∀ inserted,
        (buffer.insertText p inserted).1.text =
            splice buffer.text (buffer.offset p) inserted ∧
          (buffer.insertText p inserted).1.hasGap
            (buffer.insertText p inserted).2 = true ∧
          (buffer.insertText p inserted).1.offset
              (buffer.insertText p inserted).2 =
            buffer.offset p + inserted.length) ∧
      (∀ c, ∃ next, buffer.insertChar? p c = some next ∧
        next.text = splice buffer.text (buffer.offset p) [c]) ∧
      (∃ next, buffer.breakLine? p = some next ∧
        next.text = splice buffer.text (buffer.offset p) ['\n']) ∧
      (p.col < buffer.lineLength p.line →
        ∃ next, buffer.deleteChar? p = some next ∧
          next.text = buffer.text.eraseIdx (buffer.offset p)) ∧
      (0 < buffer.offset p →
        ∃ next q, buffer.deleteBefore? p = some (next, q) ∧
          next.text = buffer.text.eraseIdx (buffer.offset p - 1) ∧
          next.hasGap q = true ∧ next.offset q = buffer.offset p - 1) ∧
      (buffer.offset p = 0 → buffer.deleteBefore? p = none)) ∧
    (∀ first last, buffer.hasGap first = true → buffer.hasGap last = true →
      first ≤ last →
        let stop := buffer.offset last + if buffer.hasChar last then 1 else 0
        let (rest, deleted) := buffer.deleteSpan first last
        deleted = slice buffer.text (buffer.offset first) stop ∧
          deleted = buffer.spanText first last ∧
          rest.text = buffer.text.take (buffer.offset first) ++
            buffer.text.drop stop ∧
          ((∀ line ∈ buffer.lines, '\n' ∉ line) →
            (rest.insertText first deleted).1 = buffer)) := by
  constructor
  · intro p gap
    refine ⟨fun inserted =>
        ⟨text_insertText gap inserted, hasGap_insertText gap inserted,
          offset_insertText gap inserted⟩,
      exists_insertChar? gap, exists_breakLine? gap, ?_,
      exists_deleteBefore? gap, deleteBefore?_eq_none gap⟩
    intro inside
    obtain ⟨within, _⟩ := (hasGap_iff buffer p).mp gap
    exact exists_deleteChar? ((hasChar_iff buffer p).mpr ⟨within, inside⟩)
  · intro first last start stop ordered
    obtain ⟨above, left, pieces, right, below, span⟩ :=
      exists_span start stop ordered
    rw [← offset_past]
    exact ⟨span.deleted_eq_slice, rfl, span.text_deleteSpan,
      span.insertText_deleteSpan⟩

end Buffer

end ModalEditing
