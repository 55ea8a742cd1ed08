import ModalEditing.Buffer.Checked
import ModalEditing.Proofs.Buffer.Span
import ModalEditing.Proofs.Checked.Basic
import ModalEditing.Proofs.Engine.Coherent

namespace ModalEditing

open Checked

namespace Buffer

/-!
The edits of a buffer with the partial operations that they are made of. On a
text that is not too large, and within its lines, they have the same results as
the total ones.
-/

/--
No more lines than a half word counts, `maxLines`, and lines that are far below
the limits of whole words.
-/
structure Sized (buffer : Buffer) : Prop where
  lineCount : buffer.lineCount ≤ maxLines
  lineLength : ∀ line, buffer.lineLength line ≤ maxLength

theorem Sized.lineCount_le {buffer : Buffer} (sized : buffer.Sized) :
    buffer.lineCount ≤ Text.maxWord :=
  Nat.le_trans sized.lineCount (by decide)

theorem Sized.lineLength_le {buffer : Buffer} (sized : buffer.Sized)
    (line : Nat) : buffer.lineLength line ≤ Text.maxWord :=
  Nat.le_of_succ_le (behind_fits (sized.lineLength line))

theorem Sized.below_fits {buffer : Buffer} (sized : buffer.Sized) {line : Nat}
    (within : line ≤ buffer.lineCount) : line + 1 ≤ Text.maxWord :=
  Nat.le_trans (Nat.succ_le_succ (Nat.le_trans within sized.lineCount))
    (by decide)

theorem lineLength_le_iff {buffer : Buffer} {bound : Nat} :
    (∀ line, buffer.lineLength line ≤ bound) ↔
      ∀ text ∈ buffer.lines, text.length ≤ bound := by
  constructor
  · intro short text member
    obtain ⟨line, inside, rfl⟩ := List.getElem_of_mem member
    simpa [lineLength, lineText, line?, inside] using short line
  · intro short line
    unfold lineLength lineText
    cases found : buffer.line? line with
    | none => exact Nat.zero_le _
    | some text => exact short text (List.mem_of_getElem? found)

instance (buffer : Buffer) : Decidable buffer.Sized :=
  decidable_of_iff
    (buffer.lineCount ≤ maxLines ∧
      ∀ text ∈ buffer.lines, text.length ≤ maxLength)
    ⟨fun ⟨few, short⟩ => ⟨few, lineLength_le_iff.mpr short⟩,
      fun ⟨few, short⟩ => ⟨few, lineLength_le_iff.mp short⟩⟩

def tryLastLine (buffer : Buffer) : Checked Nat :=
  sub buffer.lineCount 1

def tryIsEmpty (buffer : Buffer) : Checked Bool := do
  if buffer.lineCount = 1 then return (← item buffer.lines 0).isEmpty
  else return false

def tryInsertText (buffer : Buffer) (p : Position) (text : Text) :
    Checked (Buffer × Position) := do
  let number := min p.line (← buffer.tryLastLine)
  let line ← item buffer.lines number
  let col := min p.col line.length
  match Text.splitLines text with
  | [] => return (buffer, ⟨number, col⟩)
  | [only] =>
      let stop ← add col only.length
      return (buffer.setLine number (line.take col ++ only ++ line.drop col),
        ⟨number, stop⟩)
  | first :: second :: rest =>
      let upper := buffer.setLine number (line.take col ++ first)
      let stop ← add number (rest.length + 1)
      let below ← add number 1
      let lines ← splice upper.lines below below
        (graft [] (line.drop col) (second :: rest))
      return (⟨lines⟩,
        ⟨stop,
          ((second :: rest).getLast (List.cons_ne_nil second rest)).length⟩)

def tryDeleteColumns (buffer : Buffer) (line start stop : Nat) :
    Checked (Buffer × Text) := do
  match buffer.line? line with
  | none => return (buffer, [])
  | some text =>
      let first := min start text.length
      let last := min (max start stop) text.length
      let removed ← slice text first last
      return (buffer.setLine line (← splice text first last []), removed)

def trySpanText (buffer : Buffer) (first last : Position) : Checked Text := do
  unless first ≤ last ∧ last.line < buffer.lineCount do throw .outside
  let stop ← add last.col 1
  if first.line = last.line then
    let text := buffer.lineText first.line
    slice text (min first.col text.length)
      (min (max first.col stop) text.length)
  else
    let second ← add first.line 1
    let middle ← (List.range' second (last.line - second)).mapM
      (item buffer.lines)
    return Text.joinLines <|
      (buffer.lineText first.line).drop first.col ::
        (middle ++ [(buffer.lineText last.line).take stop])

def tryDeleteSpan (buffer : Buffer) (first last : Position) :
    Checked (Buffer × Text) := do
  let text ← buffer.trySpanText first last
  let stop ← add last.col 1
  if first.line = last.line then
    let (next, _) ← buffer.tryDeleteColumns first.line first.col stop
    return (next, text)
  else
    let upper ← item buffer.lines first.line
    let lower ← item buffer.lines last.line
    let below ← add last.line 1
    let lines ← splice buffer.lines first.line below
      [upper.take first.col ++ lower.drop stop]
    return (⟨lines⟩, text)

def tryDeleteLines (buffer : Buffer) (start count : Nat) :
    Checked (Buffer × List Line) := do
  if buffer.lineCount ≤ start then return (buffer, [])
  else
    let stop := min (addUpTo start count) buffer.lineCount
    let removed ← slice buffer.lines start stop
    return (ofLines (← splice buffer.lines start stop []), removed)

def tryInsertLines (buffer : Buffer) (start : Nat)
    (lines : List Line) : Checked Buffer := do
  let start := min start buffer.lineCount
  return ⟨← splice buffer.lines start start lines⟩

def tryJoinNext? (buffer : Buffer) (line : Nat) :
    Checked (Option (Buffer × Nat)) := do
  let next ← add line 1
  if buffer.lineCount ≤ next then return none
  else
    let (lower, lines) ← remove buffer.lines next
    let upper ← item lines line
    return some (⟨lines.set line (joined upper lower)⟩, upper.length)

variable {buffer : Buffer}

theorem item_lines {line : Nat} (within : line < buffer.lineCount) :
    item buffer.lines line = pure (buffer.lineText line) := by
  rw [lineText_of_lt within]
  exact item_eq (List.getElem?_eq_getElem within)

theorem tryLastLine_eq (nonempty : buffer.lines ≠ []) :
    buffer.tryLastLine = pure buffer.lastLine :=
  sub_eq (lineCount_pos nonempty)

example : tryLastLine ⟨[]⟩ = .error .underflow := rfl

theorem editLine_of_lt {line : Nat} (within : line < buffer.lineCount)
    (edit : Line → Line) :
    buffer.editLine line edit =
      ⟨buffer.lines.take line ++
        edit (buffer.lineText line) :: buffer.lines.drop (line + 1)⟩ := by
  rw [editLine, List.modify_eq_take_cons_drop within, lineText_of_lt within]

theorem editLine_eq_setLine (line : Nat) (edit : Line → Line) :
    buffer.editLine line edit =
      buffer.setLine line (edit (buffer.lineText line)) := by
  rcases Nat.lt_or_ge line buffer.lineCount with within | outside
  · rw [setLine, editLine_of_lt within, editLine_of_lt within]
  · rw [setLine, editLine, editLine, List.modify_eq_self outside,
      List.modify_eq_self outside]

theorem remove_lines {line : Nat} (within : line + 1 < buffer.lineCount) :
    remove buffer.lines (line + 1) =
      pure (buffer.lineText (line + 1),
        buffer.lines.take line ++
          buffer.lineText line :: buffer.lines.drop (line + 2)) := by
  have size := length_take_lines (Nat.lt_of_succ_lt within)
  rw [lines_eq_around within, remove_below size, ← lines_eq_around within]

theorem tryIsEmpty_eq : buffer.tryIsEmpty = pure buffer.isEmpty := by
  obtain ⟨lines⟩ := buffer
  cases lines with
  | nil => rfl
  | cons first rest =>
      cases rest with
      | nil => cases first <;> rfl
      | cons second rest =>
          have different :
              (Buffer.mk (first :: second :: rest)).isEmpty = false :=
            beq_eq_false_iff_ne.mpr (by simp [empty])
          simp [tryIsEmpty, lineCount, different]

theorem length_le_joinLines (lines : List Line) :
    lines.length ≤ (Text.joinLines lines).length + 1 := by
  induction lines with
  | nil => exact Nat.zero_le _
  | cons line rest ih =>
      cases rest with
      | nil => simp
      | cons next rest =>
          simp only [Text.joinLines_cons_cons, List.length_append,
            List.length_cons] at ih ⊢
          omega

theorem tryInsertText_eq (nonempty : buffer.lines ≠ []) (sized : buffer.Sized)
    (p : Position) {text : Text} (short : text.length ≤ maxLength * maxCount) :
    buffer.tryInsertText p text = pure (buffer.insertText p text) := by
  have within : min p.line buffer.lastLine < buffer.lineCount := by
    have positive := lineCount_pos nonempty
    unfold lastLine
    omega
  have size := length_take_lines within
  have line := sized.lineCount
  have col := sized.lineLength (min p.line buffer.lastLine)
  have pieceCount := length_le_joinLines (Text.splitLines text)
  have whole := Text.joinLines_splitLines text
  rw [whole] at pieceCount
  unfold lineLength at col
  simp only [maxLines, maxHalfWord, maxLength, maxCount] at line col short
  unfold tryInsertText insertText
  simp only [tryLastLine_eq nonempty, pure_bind, item_lines within]
  generalize min p.line buffer.lastLine = number at *
  cases pieces : Text.splitLines text with
  | nil => exact absurd pieces (splitLines_ne_nil text)
  | cons first rest =>
      rw [pieces] at pieceCount whole
      cases rest with
      | nil =>
          rw [Text.joinLines_singleton] at whole
          have fits :
              min p.col (buffer.lineText number).length + first.length ≤
                Text.maxWord := by
            rw [whole]
            unfold Text.maxWord
            omega
          simp only [add_eq fits, pure_bind]
          simp [setLine, editLine_of_lt within]
      | cons second rest =>
          have fits : number + (rest.length + 1) ≤ Text.maxWord := by
            simp only [List.length_cons] at pieceCount
            unfold Text.maxWord
            omega
          simp only [add_eq fits,
            add_eq (sized.below_fits (Nat.le_of_lt within)), pure_bind, setLine,
            editLine_of_lt within, splice_below size]
          simp [graft, behind, Nat.add_assoc]

theorem tryInsertChar?_eq (p : Position) (c : Char) :
    buffer.tryInsertChar? p c = pure (buffer.insertChar? p c) := by
  unfold tryInsertChar? insertChar?
  split
  · rename_i gap
    obtain ⟨-, inside⟩ := (hasGap_iff buffer p).mp gap
    simp [splice_eq (Nat.le_refl p.col) inside, editLine_eq_setLine]
  · rfl

theorem tryBreakLine?_eq (fits : buffer.lineCount ≤ Text.maxWord)
    (p : Position) : buffer.tryBreakLine? p = pure (buffer.breakLine? p) := by
  unfold tryBreakLine? breakLine?
  split
  · rename_i gap
    obtain ⟨within, -⟩ := (hasGap_iff buffer p).mp gap
    have below : p.line + 1 ≤ Text.maxWord := Nat.le_trans within fits
    simp only [add_eq below, pure_bind, setLine,
      editLine_of_lt within, splice_below (length_take_lines within)]
    rfl
  · rfl

theorem tryDeleteChar?_eq (p : Position) :
    buffer.tryDeleteChar? p = pure (buffer.deleteChar? p) := by
  unfold tryDeleteChar? deleteChar?
  split
  · rename_i char
    obtain ⟨-, inside⟩ := (hasChar_iff buffer p).mp char
    have found :
        (buffer.lineText p.line)[p.col]? =
          some (buffer.lineText p.line)[p.col] :=
      List.getElem?_eq_getElem inside
    simp [remove_eq found, editLine_eq_setLine]
  · rfl

theorem tryDeleteBefore?_eq {p : Position} (gap : buffer.hasGap p = true) :
    buffer.tryDeleteBefore? p = pure (buffer.deleteBefore? p) := by
  obtain ⟨within, inside⟩ := (hasGap_iff buffer p).mp gap
  unfold tryDeleteBefore? deleteBefore?
  rw [if_neg (Nat.not_le_of_lt within), if_pos within]
  match p with
  | ⟨line, col + 1⟩ =>
      have found :
          (buffer.lineText line)[col]? = some (buffer.lineText line)[col] :=
        List.getElem?_eq_getElem inside
      simp [sub_eq, remove_eq found, editLine_eq_setLine]
  | ⟨line + 1, 0⟩ =>
      have size := length_take_lines (Nat.lt_of_succ_lt within)
      simp [remove_lines within, sub_eq, item_at size, set_at size]
  | ⟨0, 0⟩ => rfl

example : tryDeleteBefore? ⟨["ab"]⟩ ⟨0, 5⟩ = .error .outside := rfl

theorem tryDeleteColumns_eq (line start stop : Nat) :
    buffer.tryDeleteColumns line start stop =
      pure (buffer.deleteColumns line start stop) := by
  unfold tryDeleteColumns deleteColumns
  cases found : buffer.line? line with
  | none =>
      have outside : buffer.lineCount ≤ line :=
        List.getElem?_eq_none_iff.mp found
      simp [editLine, List.modify_eq_self outside, lineText, found]
  | some text =>
      have here : buffer.lineText line = text := by simp [lineText, found]
      simp only [slice_clamped, splice_clamped, pure_bind,
        editLine_eq_setLine, here]

theorem trySpanText_eq (sized : buffer.Sized) {first last : Position}
    (ordered : first ≤ last) (within : last.line < buffer.lineCount)
    (short : last.col ≤ maxLength) :
    buffer.trySpanText first last = pure (buffer.spanText first last) := by
  unfold trySpanText spanText
  simp only [ordered, within, and_self, if_true, pure_bind,
    add_eq (behind_fits short)]
  split
  · exact slice_clamped first.col (last.col + 1)
  · rename_i apart
    have earlier : first.line < last.line := by
      rw [Position.le_def] at ordered
      omega
    have second := sized.below_fits (Nat.le_of_lt (Nat.lt_trans earlier within))
    have inside :
        first.line + 1 + (last.line - (first.line + 1)) ≤
          buffer.lines.length := by
      change last.line < buffer.lines.length at within
      omega
    simp only [add_eq second, pure_bind, mapM_item_range' inside,
      List.drop_take]

example : trySpanText ⟨["ab", "cd"]⟩ ⟨1, 0⟩ ⟨0, 0⟩ = .error .outside := rfl

theorem tryDeleteSpan_eq (sized : buffer.Sized) {first last : Position}
    (ordered : first ≤ last) (within : last.line < buffer.lineCount)
    (short : last.col ≤ maxLength) :
    buffer.tryDeleteSpan first last = pure (buffer.deleteSpan first last) := by
  unfold tryDeleteSpan deleteSpan
  simp only [trySpanText_eq sized ordered within short,
    add_eq (behind_fits short), pure_bind]
  split
  · simp only [tryDeleteColumns_eq, pure_bind]
  · rename_i apart
    have earlier : first.line < last.line := by
      rw [Position.le_def] at ordered
      omega
    have below := sized.below_fits (Nat.le_of_lt within)
    simp only [item_lines (Nat.lt_trans earlier within), item_lines within,
      add_eq below, splice_eq (Nat.le_succ_of_le (Nat.le_of_lt earlier)) within,
      pure_bind]
    simp

theorem ofLines_lines (nonempty : buffer.lines ≠ []) :
    ofLines buffer.lines = buffer := by
  obtain ⟨_ | ⟨line, rest⟩⟩ := buffer
  · contradiction
  · rfl

theorem tryDeleteLines_eq (nonempty : buffer.lines ≠ []) (sized : buffer.Sized)
    (start count : Nat) :
    buffer.tryDeleteLines start count =
      pure (buffer.deleteLines start count) := by
  unfold tryDeleteLines deleteLines
  split
  · rename_i outside
    have none : buffer.lines.drop (start + count) = [] :=
      List.drop_of_length_le (Nat.le_add_right_of_le outside)
    rw [List.take_of_length_le outside, List.drop_of_length_le outside, none,
      List.append_nil, ofLines_lines nonempty, List.take_nil]
  · rename_i within
    have stop : min (addUpTo start count) buffer.lineCount =
        min (start + count) buffer.lines.length :=
      min_addUpTo sized.lineCount_le
    have ordered : start ≤ min (start + count) buffer.lines.length := by
      change ¬ buffer.lines.length ≤ start at within
      omega
    have inside := Nat.min_le_right (start + count) buffer.lines.length
    simp only [stop, slice_eq ordered inside, splice_eq ordered inside,
      take_min_length, drop_min_length, List.drop_take, Nat.add_sub_cancel_left,
      List.append_nil, pure_bind]

theorem tryInsertLines_eq (start : Nat) (lines : List Line) :
    buffer.tryInsertLines start lines =
      pure (buffer.insertLines start lines) := by
  have inside := Nat.min_le_right start buffer.lines.length
  simp only [tryInsertLines, lineCount, splice_eq (Nat.le_refl _) inside,
    take_min_length, drop_min_length, pure_bind, insertLines]

theorem tryJoinNext?_eq {line : Nat} (fits : line + 1 ≤ Text.maxWord) :
    buffer.tryJoinNext? line = pure (buffer.joinNext? line) := by
  unfold tryJoinNext? joinNext?
  simp only [add_eq fits, pure_bind]
  split
  · rename_i outside
    have absent : buffer.line? (line + 1) = none :=
      List.getElem?_eq_none_iff.mpr outside
    simp [absent]
  · rename_i within
    have within := Nat.lt_of_not_le within
    have found := line?_of_lt within
    have size := length_take_lines (Nat.lt_of_succ_lt within)
    simp [remove_lines within, item_at size, set_at size, found]

end Buffer

end ModalEditing
