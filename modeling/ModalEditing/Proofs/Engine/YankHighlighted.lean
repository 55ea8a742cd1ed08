import ModalEditing.Proofs.Engine.ModePayload
import ModalEditing.Proofs.Engine.Reading
import ModalEditing.Proofs.View.Marks

namespace ModalEditing

namespace Buffer

variable (buffer : Buffer)

theorem map_lineText_range' {start count : Nat}
    (within : start + count ≤ buffer.lineCount) :
    (List.range' start count).map buffer.lineText =
      (buffer.lines.drop start).take count := by
  change start + count ≤ buffer.lines.length at within
  refine List.ext_getElem (by simp; omega) fun i inside _ => ?_
  have inside : i < count := by simpa using inside
  have found : buffer.lines[start + i]? = some buffer.lines[start + i] :=
    List.getElem?_eq_getElem (by omega)
  simp [lineText, line?, found]

/-- The characters of a row from one place through another. -/
def rowOf (first last : Position) (row : Nat) : Line :=
  ((buffer.lineText row).take
    (if row = last.line then last.col + 1 else buffer.lineLength row)).drop
    (if row = first.line then first.col else 0)

theorem rowOf_between {first last : Position} {row : Nat}
    (lower : first.line < row) (upper : row < last.line) :
    buffer.rowOf first last row = buffer.lineText row := by
  simp [rowOf, Nat.ne_of_gt lower, Nat.ne_of_lt upper, lineLength]

theorem spanText_eq_joinLines {first last : Position}
    (ordered : first.line ≤ last.line) (within : last.line < buffer.lineCount) :
    buffer.spanText first last =
      Text.joinLines ((List.range' first.line (last.line - first.line + 1)).map
        (buffer.rowOf first last)) := by
  unfold spanText
  split
  · rename_i same
    simp [same, rowOf, List.drop_take]
  · rename_i apart
    obtain ⟨n, between⟩ : ∃ n, last.line = first.line + 1 + n :=
      Nat.exists_eq_add_of_le (by omega)
    have rows : List.range' first.line (last.line - first.line + 1) =
        first.line :: (List.range' (first.line + 1) n ++ [last.line]) := by
      rw [show last.line - first.line + 1 = n + 1 + 1 by omega,
        List.range'_succ, List.range'_1_concat, between]
    have middle :
        (List.range' (first.line + 1) n).map (buffer.rowOf first last) =
          (buffer.lines.take last.line).drop (first.line + 1) := by
      rw [List.drop_take, between, Nat.add_sub_cancel_left,
        ← buffer.map_lineText_range' (by omega)]
      refine List.map_congr_left fun row member => ?_
      obtain ⟨lower, upper⟩ := List.mem_range'_1.mp member
      exact buffer.rowOf_between lower (by omega)
    rw [rows, List.map_cons, List.map_append, middle]
    simp [rowOf, apart, Ne.symm apart, lineLength]

end Buffer

namespace View

variable {snapshot : Snapshot} {selection : Selection}

theorem highlightedOn_chars (shown : snapshot.selection = some selection)
    (chars : selection.kind = .chars) {row : Nat} {line : Line}
    (found : snapshot.line? row = some line)
    (lower : selection.first.line ≤ row) (upper : row ≤ selection.last.line) :
    highlightedOn snapshot row =
      (line.take (if row = selection.last.line then
        selection.last.col + 1 else line.length)).drop
          (if row = selection.first.line then selection.first.col else 0) := by
  rw [highlightedOn_of_line? found]
  refine charsAt_interval fun i within => ?_
  simp only [isSelected, shown, chars, Position.le_def, Bool.and_eq_true,
    decide_eq_true_eq]
  split <;> split <;> omega

theorem highlightedOn_lines (shown : snapshot.selection = some selection)
    (lines : selection.kind = .lines) {row : Nat} {line : Line}
    (found : snapshot.line? row = some line)
    (lower : selection.first.line ≤ row) (upper : row ≤ selection.last.line) :
    highlightedOn snapshot row = line := by
  have every :=
    @charsAt_interval (fun col =>
      isSelected snapshot ⟨row, col⟩) line 0 0 line.length fun i within =>
        by simp [isSelected, shown, lines, lower, upper, within]
  rw [highlightedOn_of_line? found, every]
  simp

theorem highlightedOn_outside (shown : snapshot.selection = some selection)
    {row : Nat}
    (outside : row < selection.first.line ∨ selection.last.line < row) :
    highlightedOn snapshot row = [] := by
  have off (col : Nat) : isSelected snapshot ⟨row, col⟩ = false := by
    have ordered := selection.first_le_last
    rw [Position.le_def] at ordered
    cases kind : selection.kind <;>
      simp [isSelected, shown, kind, Position.le_def] <;> omega
  cases found : snapshot.line? row with
  | none => simp [highlightedOn, found]
  | some line =>
      have none :=
        @charsAt_interval (fun col =>
          isSelected snapshot ⟨row, col⟩) line 0 0 0 fun i _ => by simp [off]
      rw [highlightedOn_of_line? found, none]
      simp

end View

namespace Engine

variable {engine : Engine} {selection : Selection} {keys : PendingKeys}

def selectedRows (selection : Selection) : List Nat :=
  List.range' selection.first.line (selectedLines selection)

theorem selected_of_mem {row : Nat} (member : row ∈ selectedRows selection) :
    selection.first.line ≤ row ∧ row ≤ selection.last.line := by
  have ordered := selection.first_le_last
  obtain ⟨lower, upper⟩ := List.mem_range'_1.mp member
  rw [selectedLines] at upper
  rw [Position.le_def] at ordered
  omega

theorem line?_snapshot_of_lt {row : Nat}
    (within : row < engine.buffer.lineCount) :
    engine.snapshot.line? row = some (engine.buffer.lineText row) := by
  change row < engine.buffer.lines.length at within
  simp [snapshot, Snapshot.line?, Buffer.lineText, Buffer.line?,
    List.getElem?_eq_getElem within]

/--
What the view highlights in the rows of a selection is what yanking it stores.
-/
theorem joinLines_highlighted (visual : engine.mode = .visual selection keys)
    (fits : selection.Fits engine.buffer engine.cursor) :
    Text.joinLines ((selectedRows selection).map
        (View.highlightedOn engine.snapshot)) =
      match selection.kind with
      | .chars => engine.buffer.spanText selection.first selection.last
      | .lines => Text.joinLines
          ((engine.buffer.lines.drop selection.first.line).take
            (selectedLines selection)) := by
  have shown : engine.snapshot.selection = some selection :=
    congrArg Mode.selection? visual
  have ordered := selection.first_le_last
  have within := fits.last.1
  have found {row : Nat} (member : row ∈ selectedRows selection) :
      engine.snapshot.line? row = some (engine.buffer.lineText row) :=
    line?_snapshot_of_lt (Nat.lt_of_le_of_lt (selected_of_mem member).2 within)
  rw [Position.le_def] at ordered
  cases kind : selection.kind with
  | chars =>
      dsimp only
      rw [Buffer.spanText_eq_joinLines _ (by omega) within]
      refine congrArg Text.joinLines (List.map_congr_left fun row member => ?_)
      obtain ⟨lower, upper⟩ := selected_of_mem member
      exact View.highlightedOn_chars shown kind (found member) lower upper
  | lines =>
      dsimp only
      rw [← Buffer.map_lineText_range' _ (by rw [selectedLines]; omega)]
      refine congrArg Text.joinLines (List.map_congr_left fun row member => ?_)
      obtain ⟨lower, upper⟩ := selected_of_mem member
      exact View.highlightedOn_lines shown kind (found member) lower upper

theorem get?_yankSelection (engine : Engine) (selection : Selection) :
    (engine.yankSelection selection).registers.get? Registers.unnamed =
      some (match selection.kind with
        | .chars => engine.buffer.spanText selection.first selection.last
        | .lines => RegisterContent.encodeLines
            ((engine.buffer.lines.drop selection.first.line).take
              (selectedLines selection))) := by
  unfold yankSelection
  cases selection.kind with
  | chars => exact (Registers.get?_store _ _ _ _).trans (if_pos rfl)
  | lines => exact (Registers.get?_store _ _ _ _).trans (if_pos rfl)

theorem press_yank (visual : engine.mode = .visual selection keys)
    (motions : keys.OnlyMotions) (quiet : ¬ engine.AwaitsCharacter)
    {event : KeyEvent} (bare : event.modifiers.hasCommand = false)
    (key : event.key = .char 'y') :
    (engine.press event).engine =
      (engine.enter (.visual selection .none)).yankSelection selection := by
  obtain ⟨count, reading⟩ :=
    reading?_visual_single visual motions quiet bare key (by decide) (by decide)
  rw [press_of_single_visual visual reading, key]
  rfl

theorem registers_press_of_awaitsCharacter
    (visual : engine.mode = .visual selection keys) (motions : keys.OnlyMotions)
    (awaits : engine.AwaitsCharacter) {event : KeyEvent}
    (bare : event.modifiers.hasCommand = false) {c : Char}
    (key : event.key = .char c) :
    (engine.press event).engine.registers = engine.registers := by
  obtain ⟨command, count, read, reading⟩ :=
    reading?_visual_awaited visual awaits bare key
  rw [press_of_command reading]
  rcases runKeyCommand_of_onlyMotions motions read
    (engine.enter (engine.mode.withKeys .none)) with same | ⟨p, moved⟩
  · rw [same]
    rfl
  · rw [moved]
    rfl

/--
What the view highlights is what yanking stores: the highlighted characters of
the rows of the selection, joined by line breaks, with one more behind whole
lines. After an `f` or `F` that still waits, the key is the character to look
for instead, and no register changes.
-/
theorem Reachable.yank_stores_highlighted (reachable : Reachable engine)
    (visual : engine.mode = .visual selection keys) :
    (∀ row line, (View.lineMarks engine.snapshot row line).flatMap Mark.text =
      View.renderLine engine.snapshot row line) ∧
    (∀ row, row < selection.first.line ∨ selection.last.line < row →
      View.highlightedOn engine.snapshot row = []) ∧
    (∀ event, event.modifiers.hasCommand = false → event.key = .char 'y' →
      (¬ engine.AwaitsCharacter →
        (engine.press event).engine.registers.get? Registers.unnamed =
          some (Text.joinLines
              ((selectedRows selection).map
                (View.highlightedOn engine.snapshot)) ++
            if selection.kind = .lines then ['\n'] else [])) ∧
      (engine.AwaitsCharacter →
        (engine.press event).engine.registers = engine.registers)) := by
  obtain ⟨fits, -, motions⟩ := reachable.coherent.fits_of_visual visual
  refine ⟨View.flatMap_text_lineMarks engine.snapshot, ?_, ?_⟩
  · intro row outside
    exact View.highlightedOn_outside (congrArg Mode.selection? visual) outside
  · intro event bare key
    constructor
    · intro quiet
      rw [press_yank visual motions quiet bare key, get?_yankSelection,
        joinLines_highlighted visual fits]
      cases kind : selection.kind with
      | chars => simp [enter]
      | lines => simp [enter, RegisterContent.encodeLines]
    · intro awaits
      exact registers_press_of_awaitsCharacter visual motions awaits bare key

/-- A selection made upwards, over an empty line. -/
theorem yank_stores_highlighted_upwards :
    let engine := (ofContent "abc\n\nxy").run
      [.setCursor ⟨2, 0⟩, .pressKey (.char 'v'), .pressKey (.char 'k'),
        .pressKey (.char 'k'), .pressKey (.char 'l')]
    let selection : Selection := ⟨⟨2, 0⟩, ⟨0, 1⟩, .chars⟩
    (Reachable engine ∧ engine.mode = .visual selection .none ∧
        ¬ engine.AwaitsCharacter) ∧
      View.highlightedOn engine.snapshot 3 = [] ∧
      (engine.press (.char 'y')).engine.registers.get? Registers.unnamed =
        some (Text.joinLines
            ((selectedRows selection).map
              (View.highlightedOn engine.snapshot)) ++
          if selection.kind = .lines then ['\n'] else []) := by
  intro engine selection
  have reachable : Reachable engine := (Reachable.ofContent _).run _
  have visual : engine.mode = .visual selection .none := by decide +kernel
  have quiet := not_awaitsCharacter (congrArg Mode.keys? visual) rfl
  obtain ⟨-, outside, stored⟩ := reachable.yank_stores_highlighted visual
  exact ⟨⟨reachable, visual, quiet⟩, outside 3 (Or.inr (by decide)),
    (stored (.char 'y') rfl rfl).1 quiet⟩

/--
After `vf` the key `y` is looked for, and what is highlighted is not stored.
-/
theorem awaited_yank_not_stored :
    let engine :=
      (ofContent "abc").run [.pressKey (.char 'v'), .pressKey (.char 'f')]
    let selection : Selection := .charAt .origin
    Reachable engine ∧ (∃ keys, engine.mode = .visual selection keys) ∧
      (engine.press (.char 'y')).engine.registers.get? Registers.unnamed ≠
        some (Text.joinLines
            ((selectedRows selection).map
              (View.highlightedOn engine.snapshot)) ++
          if selection.kind = .lines then ['\n'] else []) := by
  intro engine selection
  refine ⟨(Reachable.ofContent _).run _,
    ⟨⟨none, some ⟨.findForward, .ofMilliseconds 1000⟩⟩, ?_⟩, ?_⟩
  · decide +kernel
  · decide +kernel

end Engine

end ModalEditing
