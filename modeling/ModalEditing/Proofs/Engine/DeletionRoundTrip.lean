import ModalEditing.Proofs.Engine.LineChange
import ModalEditing.Proofs.Engine.SelectionRoundTrip

namespace ModalEditing

theorem flatten_replicate_ne_nil {α : Type} {list : List α}
    (nonempty : list ≠ []) {count : Nat} (positive : 1 ≤ count) :
    (List.replicate count list).flatten ≠ [] := by
  intro empty
  have none := List.flatten_eq_nil_iff.mp empty list
  exact nonempty (none (List.mem_replicate.mpr ⟨Nat.ne_of_gt positive, rfl⟩))

namespace Buffer

variable {buffer : Buffer} {first count : Nat}

theorem lines_insertLines_deleteLines_self (within : first ≤ buffer.lineCount)
    (remains : buffer.linesWithout first count ≠ []) :
    ((buffer.deleteLines first count).1.insertLines first
      (buffer.deleteLines first count).2).lines = buffer.lines := by
  have removed :
      (buffer.deleteLines first count).2 =
        (buffer.lines.drop first).take count :=
    rfl
  rw [lines_insertLines_deleteLines within remains, removed, List.append_assoc,
    ← List.drop_drop, List.take_append_drop, List.take_append_drop]

theorem lineCount_deleteLines (within : first ≤ buffer.lineCount)
    (remains : buffer.linesWithout first count ≠ []) :
    (buffer.deleteLines first count).1.lineCount =
      first + (buffer.lineCount - (first + count)) := by
  have rest :
      (buffer.deleteLines first count).1.lines =
        buffer.linesWithout first count :=
    lines_ofLines remains
  rw [lineCount, rest, linesWithout, List.length_append, List.length_drop,
    List.length_take_of_le within]
  rfl

theorem length_insertLines (buffer : Buffer) (start : Nat) (lines : List Line) :
    (buffer.insertLines start lines).lines.length =
      buffer.lines.length + lines.length := by
  simp only [insertLines, List.length_append, List.length_take,
    List.length_drop]
  omega

theorem lines_insertLines_ne {lines : List Line} (nonempty : lines ≠ [])
    (start : Nat) : (buffer.insertLines start lines).lines ≠ buffer.lines := by
  intro same
  have more := congrArg List.length same
  rw [length_insertLines] at more
  exact nonempty (List.length_eq_zero_iff.mp (by omega))

theorem lines_insertText_ne {p : Position} (gap : buffer.hasGap p = true)
    {text : Text} (nonempty : text ≠ []) :
    (buffer.insertText p text).1.lines ≠ buffer.lines := by
  intro same
  -- The lines may be as many as before, but the text with its line breaks is
  -- longer.
  have more := congrArg List.length (congrArg Text.joinLines same)
  change (buffer.insertText p text).1.text.length = buffer.text.length at more
  rw [text_insertText gap, Text.splice] at more
  simp only [List.length_append, List.length_take, List.length_drop] at more
  exact nonempty (List.length_eq_zero_iff.mp (by omega))

end Buffer

namespace Engine

variable {engine : Engine}

/-! What is deleted in normal mode, and pasted at the same place. -/

theorem Coherent.col_le_of_normal (coherent : engine.Coherent)
    (normal : engine.mode = .normal .none) :
    engine.cursor.col ≤ engine.currentLine.length - 1 := by
  have inside := coherent.cursor.2
  rwa [normal] at inside

theorem Coherent.col_lt_length (coherent : engine.Coherent)
    (normal : engine.mode = .normal .none) (some : engine.currentLine ≠ []) :
    engine.cursor.col < engine.currentLine.length :=
  Nat.lt_of_le_sub_one (List.length_pos_iff.mpr some)
    (coherent.col_le_of_normal normal)

theorem hasGap_paste_column (coherent : engine.Coherent)
    (normal : engine.mode = .normal .none) (behind : Bool) :
    engine.buffer.hasGap ⟨engine.cursor.line,
      if behind && !engine.currentLine.isEmpty then engine.cursor.col + 1
      else engine.cursor.col⟩ = true := by
  have onCharacter := coherent.col_le_of_normal normal
  refine (Buffer.hasGap_iff _ _).mpr ⟨coherent.cursor.1, ?_⟩
  change _ ≤ engine.currentLine.length
  dsimp only
  split
  · rename_i further
    obtain ⟨-, some⟩ := Bool.and_eq_true_iff.mp further
    have positive : 0 < engine.currentLine.length :=
      List.length_pos_iff.mpr (by simpa using some)
    omega
  · omega

theorem lines_paste_eq_iff (coherent : engine.Coherent)
    (normal : engine.mode = .normal .none) (behind : Bool) {count : Nat}
    (positive : 1 ≤ count) :
    (engine.paste behind count).buffer.lines = engine.buffer.lines ↔
      engine.registers.content? Registers.unnamed = none := by
  cases content : engine.registers.content? Registers.unnamed with
  | none => simp [paste_of_content?_eq_none content]
  | some stored =>
      obtain ⟨text, -, decoded⟩ := Option.bind_eq_some_iff.mp content
      refine iff_of_false ?_ (by simp)
      rcases RegisterContent.nonempty_of_decode? decoded with
        ⟨lines, nonempty, rfl⟩ | ⟨chars, nonempty, rfl⟩
      · rw [buffer_paste_lines content]
        exact Buffer.lines_insertLines_ne
          (flatten_replicate_ne_nil nonempty positive) _
      · rw [buffer_paste_chars content]
        exact Buffer.lines_insertText_ne
          (hasGap_paste_column coherent normal behind)
          (flatten_replicate_ne_nil nonempty positive)

section Lines

variable {first count : Nat}

theorem place_deleteLines (within : first < engine.buffer.lineCount)
    (positive : 1 ≤ count) :
    (engine.deleteLines first count).buffer =
        (engine.buffer.deleteLines first count).1 ∧
      (engine.deleteLines first count).cursor.line =
        min first (engine.buffer.deleteLines first count).1.lastLine := by
  have some := Buffer.isEmpty_deleteLines within positive
  unfold deleteLines
  dsimp only
  rw [some, if_neg Bool.false_ne_true]
  refine ⟨rfl, ?_⟩
  simp only [clampCursor, nearest, storeLines, Nat.min_assoc, Nat.min_self]

theorem mode_deleteLines (engine : Engine) (first count : Nat) :
    (engine.deleteLines first count).mode = engine.mode := by
  simp only [deleteLines]
  split <;> rfl

theorem content?_deleteLines (within : first < engine.buffer.lineCount)
    (positive : 1 ≤ count)
    (unbroken : ∀ line ∈ engine.buffer.lines, '\n' ∉ line) :
    (engine.deleteLines first count).registers.content? Registers.unnamed =
      some (.lines (engine.buffer.deleteLines first count).2) := by
  have nonempty : (engine.buffer.deleteLines first count).2 ≠ [] :=
    mt List.isEmpty_iff.mpr
      (Bool.eq_false_iff.mp (Buffer.isEmpty_deleteLines within positive))
  have whole :
      ∀ line ∈ (engine.buffer.deleteLines first count).2, '\n' ∉ line :=
    fun line member =>
      unbroken line (List.mem_of_mem_drop (List.mem_of_mem_take member))
  simp only [Registers.content?, get?_deleteLines within positive]
  exact RegisterContent.decode?_encodeLines nonempty whole

/--
What is pasted goes where the lines were: the cursor is below them, or else just
above.
-/
theorem paste_line_of_deleted (within : first < engine.buffer.lineCount)
    (remains : engine.buffer.linesWithout first count ≠ []) {line : Nat}
    (place : line =
      min first (engine.buffer.deleteLines first count).1.lastLine) :
    (if decide (engine.buffer.lineCount ≤ first + count) then
      line + 1 else line) = first := by
  have left := Buffer.lineCount_deleteLines (Nat.le_of_lt within) remains
  -- If the last lines are gone, there is one above them.
  have above := mt (Buffer.linesWithout_eq_nil_iff within).mpr remains
  rw [Buffer.lastLine, left] at place
  simp only [decide_eq_true_eq]
  split <;> omega

theorem paste_deleted_lines (within : first < engine.buffer.lineCount)
    (positive : 1 ≤ count)
    (unbroken : ∀ line ∈ engine.buffer.lines, '\n' ∉ line)
    (remains : engine.buffer.linesWithout first count ≠ []) :
    ((engine.deleteLines first count).paste
      (decide (engine.buffer.lineCount ≤ first + count)) 1).buffer.lines =
        engine.buffer.lines := by
  obtain ⟨buffer, line⟩ := place_deleteLines within positive
  have restored :=
    Buffer.lines_insertLines_deleteLines_self (Nat.le_of_lt within) remains
  rw [buffer_paste_lines (content?_deleteLines within positive unbroken),
    buffer, paste_line_of_deleted within remains line]
  simpa using restored

end Lines

section Characters

variable {above : List Line} {left right : Line} {below : List Line}

theorem mode_deleteForward (engine : Engine) (count : Nat) :
    (engine.deleteForward count).clampCursor.mode = engine.mode := by
  simp only [deleteForward]
  split <;> rfl

theorem clampCursor_deleteForward (normal : engine.mode = .normal .none)
    (buffer : engine.buffer = .cut above left right below)
    (cursor : engine.cursor = ⟨above.length, left.length⟩) (some : right ≠ [])
    (count : Nat) :
    (engine.deleteForward count).clampCursor =
      { engine with
        buffer := .cut above left (right.drop count) below
        cursor :=
          ⟨above.length, min left.length
            (left.length + (right.drop count).length - 1)⟩
        registers :=
          engine.registers.store Registers.unnamed (right.take count) } := by
  have length : engine.currentLine.length = left.length + right.length := by
    rw [currentLine, cursor, buffer, Buffer.lineText_cut, List.length_append]
  have inside : left.length < left.length + right.length :=
    Nat.lt_add_of_pos_right (List.length_pos_iff.mpr some)
  have columns :
      min (left.length + count) (left.length + right.length) - left.length =
        min count right.length := by omega
  simp only [deleteForward, length, cursor, if_pos inside, cut, buffer]
  rw [Buffer.deleteColumns_cut, columns, ← List.take_eq_take_min,
    ← List.drop_eq_drop_min]
  simp only [clampCursor, store, normal, Mode.kind, nearest_cut]

theorem paste_deleted_characters (normal : engine.mode = .normal .none)
    (buffer : engine.buffer = .cut above left right below)
    (cursor : engine.cursor = ⟨above.length, left.length⟩) (some : right ≠ [])
    (unbroken : '\n' ∉ right) {count : Nat} (positive : 1 ≤ count) :
    ((engine.deleteForward count).clampCursor.paste
        (right.drop count).isEmpty 1).buffer =
      engine.buffer := by
  have nonempty : right.take count ≠ [] := by
    rw [Ne, List.take_eq_nil_iff, not_or]
    exact ⟨Nat.ne_of_gt positive, some⟩
  have whole : '\n' ∉ right.take count := mt List.mem_of_mem_take unbroken
  have pieces : Text.splitLines (right.take count) = [right.take count] := by
    have split :=
      Text.splitLines_joinLines (List.cons_ne_nil (right.take count) [])
    rw [Text.joinLines_singleton, List.forall_mem_singleton] at split
    exact split whole
  have decoded := RegisterContent.decode?_line nonempty whole
  rw [clampCursor_deleteForward normal buffer cursor some,
    buffer_paste_chars ((Registers.content?_store _ _ _).trans decoded),
    insert_column rfl rfl, List.replicate_one, List.flatten_singleton,
    Buffer.insertText_cut, pieces, buffer]
  simp [Buffer.cut]

end Characters

/-! The keys. -/

theorem typed_append_concat (engine : Engine) (text rest : Text) (last : Char) :
    engine.typed (text ++ (rest ++ [last])) =
      (engine.typed (text ++ rest)).typed [last] := by
  rw [← List.append_assoc, typed_append]

theorem typed_paste (normal : engine.mode = .normal .none) (behind : Bool) :
    engine.typed [if behind then 'p' else 'P'] = engine.paste behind 1 :=
  pressKey_paste normal behind

section Counted

variable {n : Nat} (normal : engine.mode = .normal .none) (positive : 1 ≤ n)
  (limited : n ≤ maxCount)

include normal positive limited

theorem typed_delete_lines_paste
    (timely : engine.now < engine.now + engine.settings.wait) (behind : Bool) :
    engine.typed (Text.decimal n ++ ['d', 'd', if behind then 'p' else 'P']) =
      (engine.deleteLines engine.cursor.line n).paste behind 1 := by
  have deleted : engine.typed (Text.decimal n ++ ['d', 'd']) =
      engine.deleteLines engine.cursor.line n := by
    rw [typed_count_command normal positive limited rfl rfl rfl timely]
    rfl
  have last :=
    engine.typed_append_concat (Text.decimal n) ['d', 'd']
      (if behind then 'p' else 'P')
  rw [deleted, typed_paste ((mode_deleteLines _ _ _).trans normal)] at last
  exact last

theorem typed_delete_characters_paste (behind : Bool) :
    engine.typed (Text.decimal n ++ ['x', if behind then 'p' else 'P']) =
      (engine.deleteForward n).clampCursor.paste behind 1 := by
  have deleted :
      engine.typed (Text.decimal n ++ ['x']) =
        (engine.deleteForward n).clampCursor :=
    typed_count_single normal positive limited rfl rfl
  have last :=
    engine.typed_append_concat (Text.decimal n) ['x']
      (if behind then 'p' else 'P')
  rw [deleted, typed_paste ((mode_deleteForward _ _).trans normal)] at last
  exact last

theorem typed_counted_paste (behind : Bool) :
    engine.typed (Text.decimal n ++ [if behind then 'p' else 'P']) =
      engine.paste behind n := by
  cases behind with
  | true => exact typed_count_single normal positive limited rfl rfl
  | false => exact typed_count_single normal positive limited rfl rfl

/--
If a pending `d` is overdue at once, two of them do nothing and the paste has
the count.
-/
theorem typed_late_delete_paste
    (late : ¬ engine.now < engine.now + engine.settings.wait) (behind : Bool) :
    engine.typed (Text.decimal n ++ ['d', 'd', if behind then 'p' else 'P']) =
      engine.paste behind n := by
  let key := if behind then 'p' else 'P'
  have once : engine.typed (Text.decimal n ++ ['d', 'd']) =
      engine.typed (Text.decimal n ++ ['d']) :=
    typed_count_late normal positive limited rfl rfl late
  calc
    _ = (engine.typed (Text.decimal n ++ ['d', 'd'])).typed [key] :=
      engine.typed_append_concat _ ['d', 'd'] key
    _ = (engine.typed (Text.decimal n ++ ['d'])).typed [key] := by rw [once]
    _ = engine.typed (Text.decimal n ++ ['d', key]) :=
      (engine.typed_append_concat _ ['d'] key).symm
    _ = engine.typed (Text.decimal n ++ [key]) :=
      typed_count_late normal positive limited rfl rfl late
    _ = engine.paste behind n :=
      typed_counted_paste normal positive limited behind

end Counted

theorem key_paste (place bound : Nat) :
    (if place < bound then 'P' else 'p') = if decide (bound ≤ place) then
      'p' else 'P' := by
  simp only [decide_eq_true_eq, ← Nat.not_lt, ite_not]

/--
Lines that are deleted and pasted are back where they were, unless the second
`d` came too late for the first one and there was something else to paste.
-/
theorem Reachable.paste_restores_deleted_lines_iff
    (reachable : Reachable engine) (normal : engine.mode = .normal .none)
    (unbroken : ∀ line ∈ engine.buffer.lines, '\n' ∉ line) {n : Nat}
    (positive : 1 ≤ n) (limited : n ≤ maxCount)
    (remains : 0 < engine.cursor.line ∨
      engine.cursor.line + n < engine.buffer.lineCount) :
    (engine.typed (Text.decimal n ++ ['d', 'd',
        if engine.cursor.line + n < engine.buffer.lineCount then 'P'
        else 'p'])).buffer.lines =
        engine.buffer.lines ↔
      engine.now < engine.now + engine.settings.wait ∨
        engine.registers.content? Registers.unnamed = none := by
  have coherent := reachable.coherent
  have within := coherent.cursor.1
  have left : engine.buffer.linesWithout engine.cursor.line n ≠ [] := by
    rw [Ne, Buffer.linesWithout_eq_nil_iff within]
    omega
  rw [key_paste]
  by_cases timely : engine.now < engine.now + engine.settings.wait
  · refine iff_of_true ?_ (Or.inl timely)
    rw [typed_delete_lines_paste normal positive limited timely]
    exact paste_deleted_lines within positive unbroken left
  · rw [or_iff_right timely,
      typed_late_delete_paste normal positive limited timely]
    exact lines_paste_eq_iff coherent normal _ positive

/--
Five lines from the second of three, an empty one among them, and one line above
another.
-/
theorem paste_restores_deleted_lines_past_last :
    let engine := (ofContent "a\n\nb").run [.setCursor ⟨1, 0⟩]
    (Reachable engine ∧ engine.mode = .normal .none ∧
        (∀ line ∈ engine.buffer.lines, '\n' ∉ line) ∧ engine.cursor.line = 1 ∧
        engine.buffer.lineCount = 3 ∧
        engine.now < engine.now + engine.settings.wait) ∧
      (engine.typed (Text.decimal 5 ++ ['d', 'd', 'p'])).buffer.lines =
        engine.buffer.lines ∧
      (engine.typed (Text.decimal 1 ++ ['d', 'd', 'P'])).buffer.lines =
        engine.buffer.lines := by
  intro engine
  have reachable : Reachable engine := (Reachable.ofContent _).run _
  have normal : engine.mode = .normal .none := by decide +kernel
  have lines : engine.buffer.lines = [['a'], [], ['b']] := by decide +kernel
  have unbroken : ∀ line ∈ engine.buffer.lines, '\n' ∉ line := by simp [lines]
  have line : engine.cursor.line = 1 := by decide +kernel
  have lineCount : engine.buffer.lineCount = 3 := by decide +kernel
  have timely : engine.now < engine.now + engine.settings.wait := by
    decide +kernel
  have below : 0 < engine.cursor.line := by omega
  have five := reachable.paste_restores_deleted_lines_iff normal unbroken
    (show 1 ≤ 5 by decide) (by decide) (Or.inl below)
  have one := reachable.paste_restores_deleted_lines_iff normal unbroken
    (Nat.le_refl 1) (by decide) (Or.inl below)
  rw [line, lineCount, if_neg (by decide)] at five
  rw [line, lineCount, if_pos (by decide)] at one
  exact ⟨⟨reachable, normal, unbroken, line, lineCount, timely⟩,
    five.mpr (Or.inl timely), one.mpr (Or.inl timely)⟩

/--
A `d` that is overdue at once deletes nothing, and a character deleted before is
pasted.
-/
theorem late_deletion_pastes_older_text :
    let engine :=
      (ofContent "ab\nc").run [.pressKey (.char 'x'), .tick .longest]
    let restored := engine.typed (Text.decimal 1 ++ ['d', 'd', 'P'])
    (Reachable engine ∧ engine.mode = .normal .none ∧ engine.cursor = ⟨0, 0⟩ ∧
        engine.buffer.lines = [['b'], ['c']]) ∧
      restored.buffer.lines = [['a', 'b'], ['c']] ∧
      restored.buffer.lines ≠ engine.buffer.lines := by
  intro engine restored
  have reachable : Reachable engine := (Reachable.ofContent _).run _
  have lines : engine.buffer.lines = [['b'], ['c']] := by decide +kernel
  have pasted : restored.buffer.lines = [['a', 'b'], ['c']] := by decide +kernel
  refine ⟨⟨reachable, by decide +kernel, by decide +kernel, lines⟩, pasted, ?_⟩
  rw [pasted, lines]
  decide

/-- Characters that are deleted and pasted are back where they were. -/
theorem Reachable.paste_restores_deleted_characters
    (reachable : Reachable engine) (normal : engine.mode = .normal .none)
    (some : engine.currentLine ≠ []) (unbroken : '\n' ∉ engine.currentLine)
    {n : Nat} (positive : 1 ≤ n) (limited : n ≤ maxCount) :
    (engine.typed (Text.decimal n ++ ['x',
        if engine.cursor.col + n < engine.currentLine.length then 'P'
        else 'p'])).buffer.lines =
      engine.buffer.lines := by
  have coherent := reachable.coherent
  obtain ⟨above, left, right, below, buffer, cursor⟩ :=
    Buffer.exists_cut coherent.hasGap
  have line : engine.currentLine = left ++ right := by
    rw [currentLine, cursor, buffer, Buffer.lineText_cut]
  have positiveLength : 0 < engine.currentLine.length :=
    List.length_pos_iff.mpr some
  have onCharacter := coherent.col_le_of_normal normal
  simp only [cursor, line, List.length_append] at onCharacter positiveLength
  have nonempty : right ≠ [] := List.length_pos_iff.mp (by omega)
  have behind : decide (engine.currentLine.length ≤ engine.cursor.col + n) =
      (right.drop n).isEmpty := by
    rw [Bool.eq_iff_iff]
    simp [line, cursor]
  rw [line, List.mem_append, not_or] at unbroken
  rw [key_paste, typed_delete_characters_paste normal positive limited, behind,
    paste_deleted_characters normal buffer cursor nonempty unbroken.2 positive]

/--
More characters than there are to the end of the line, and one of those before
it.
-/
theorem paste_restores_deleted_characters_to_line_end :
    let engine := (ofContent "abc").run [.setCursor ⟨0, 1⟩]
    (Reachable engine ∧ engine.mode = .normal .none ∧
        engine.currentLine = ['a', 'b', 'c'] ∧ engine.cursor.col = 1) ∧
      (engine.typed (Text.decimal 9 ++ ['x'])).cursor = ⟨0, 0⟩ ∧
      (engine.typed (Text.decimal 9 ++ ['x', 'p'])).buffer.lines =
        engine.buffer.lines ∧
      (engine.typed (Text.decimal 1 ++ ['x', 'P'])).buffer.lines =
        engine.buffer.lines := by
  intro engine
  have reachable : Reachable engine := (Reachable.ofContent _).run _
  have normal : engine.mode = .normal .none := by decide +kernel
  have line : engine.currentLine = ['a', 'b', 'c'] := by decide +kernel
  have col : engine.cursor.col = 1 := by decide +kernel
  have some : engine.currentLine ≠ [] := by simp [line]
  have unbroken : '\n' ∉ engine.currentLine := by simp [line]
  have nine := reachable.paste_restores_deleted_characters normal some unbroken
    (show 1 ≤ 9 by decide) (by decide)
  have one := reachable.paste_restores_deleted_characters normal some unbroken
    (Nat.le_refl 1) (by decide)
  rw [line, col, if_neg (by decide)] at nine
  rw [line, col, if_pos (by decide)] at one
  exact ⟨⟨reachable, normal, line, col⟩, by decide +kernel, nine, one⟩

end Engine

end ModalEditing
