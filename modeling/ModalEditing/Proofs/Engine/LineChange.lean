import ModalEditing.Proofs.Engine.Deletion
import ModalEditing.Proofs.Engine.TypedCount

namespace ModalEditing

namespace Buffer

def linesWithout (buffer : Buffer) (first count : Nat) : List Line :=
  buffer.lines.take first ++ buffer.lines.drop (first + count)

theorem isEmpty_ofLines_iff {lines : List Line} :
    (ofLines lines).isEmpty = true ↔ lines = [] ∨ lines = [[]] := by
  cases lines with
  | nil => simp [ofLines, isEmpty]
  | cons line rest => simp [ofLines, isEmpty, empty]

theorem linesWithout_eq_nil_iff {buffer : Buffer} {first count : Nat}
    (within : first < buffer.lineCount) :
    buffer.linesWithout first count = [] ↔
      first = 0 ∧ buffer.lineCount ≤ count := by
  have left : buffer.lines ≠ [] :=
    fun none => by simp [lineCount, none] at within
  rw [linesWithout, List.append_eq_nil_iff, List.take_eq_nil_iff,
    List.drop_eq_nil_iff, or_iff_left left]
  refine and_congr_right fun top => ?_
  rw [top, Nat.zero_add]
  rfl

theorem lines_insertLines_deleteLines {buffer : Buffer} {first count : Nat}
    (within : first ≤ buffer.lineCount)
    (remains : buffer.linesWithout first count ≠ []) (lines : List Line) :
    ((buffer.deleteLines first count).1.insertLines first lines).lines =
      buffer.lines.take first ++ lines ++
        buffer.lines.drop (first + count) := by
  have above : (buffer.lines.take first).length = first :=
    List.length_take_of_le within
  have rest : (buffer.deleteLines first count).1.lines =
      buffer.lines.take first ++ buffer.lines.drop (first + count) :=
    lines_ofLines remains
  simp only [insertLines, rest]
  rw [List.take_left' above, List.drop_left' above]

end Buffer

namespace Engine

variable {engine : Engine} {first count : Nat}

/-! What becomes of whole lines that are changed, and which keys change them. -/

/--
Whole lines of a buffer are now one empty line with the cursor to insert into,
and stored.
-/
structure HasReplaced (engine : Engine) (buffer : Buffer)
    (first count : Nat) : Prop where
  inserts : engine.mode = .insert
  lines : engine.buffer.lines =
    buffer.lines.take first ++ [] :: buffer.lines.drop (first + count)
  cursor : engine.cursor = ⟨first, 0⟩
  stored : engine.registers.get? Registers.unnamed =
    some (RegisterContent.encodeLines ((buffer.lines.drop first).take count))

theorem not_hasReplaced_of_kind_ne {buffer : Buffer}
    (other : engine.mode.kind ≠ .insert) :
    ¬ engine.HasReplaced buffer first count := fun replaced =>
  other (congrArg Mode.kind replaced.inserts)

theorem mode_changeLines (engine : Engine) (first count : Nat) :
    (engine.changeLines first count).mode = .insert := by
  simp only [changeLines]
  split <;> rfl

theorem place_changeLines_of_isEmpty
    (emptied : (engine.buffer.deleteLines first count).1.isEmpty = true) :
    (engine.changeLines first count).buffer.lines = [[]] ∧
      (engine.changeLines first count).cursor = ⟨0, 0⟩ := by
  have lines : (engine.buffer.deleteLines first count).1 = .empty :=
    beq_iff_eq.mp emptied
  unfold changeLines
  dsimp only
  rw [if_pos emptied]
  exact ⟨congrArg Buffer.lines lines, rfl⟩

theorem place_changeLines_of_not_isEmpty
    (within : first < engine.buffer.lineCount)
    (left : ¬ (engine.buffer.deleteLines first count).1.isEmpty = true) :
    (engine.changeLines first count).buffer.lines =
        engine.buffer.lines.take first ++
          [] :: engine.buffer.lines.drop (first + count) ∧
      (engine.changeLines first count).cursor = ⟨first, 0⟩ := by
  obtain ⟨some, -⟩ := not_or.mp (mt Buffer.isEmpty_ofLines_iff.mpr left)
  unfold changeLines
  dsimp only
  rw [if_neg left]
  refine ⟨?_, rfl⟩
  exact (Buffer.lines_insertLines_deleteLines (Nat.le_of_lt within) some
    [[]]).trans (List.append_assoc _ _ _)

theorem place_changeLines (within : first < engine.buffer.lineCount)
    (several : engine.buffer.linesWithout first count ≠ [[]]) :
    (engine.changeLines first count).buffer.lines =
        engine.buffer.lines.take first ++
          [] :: engine.buffer.lines.drop (first + count) ∧
      (engine.changeLines first count).cursor = ⟨first, 0⟩ := by
  by_cases all : engine.buffer.linesWithout first count = []
  · have placed :=
      place_changeLines_of_isEmpty (Buffer.isEmpty_ofLines_iff.mpr (Or.inl all))
    obtain ⟨rfl, further⟩ := (Buffer.linesWithout_eq_nil_iff within).mp all
    rw [List.take_zero, Nat.zero_add, List.drop_eq_nil_of_le further]
    exact placed
  · refine place_changeLines_of_not_isEmpty within fun emptied => ?_
    exact (Buffer.isEmpty_ofLines_iff.mp emptied).elim all several

/--
A single line that is left, if it is empty, is taken for the one that an empty
text has.
-/
theorem hasReplaced_changeLines_iff (within : first < engine.buffer.lineCount) :
    (engine.changeLines first count).HasReplaced engine.buffer first count ↔
      engine.buffer.linesWithout first count ≠ [[]] := by
  constructor
  · intro replaced single
    have emptied :=
      place_changeLines_of_isEmpty
        (Buffer.isEmpty_ofLines_iff.mpr (Or.inr single))
    -- Of the lines there is one only, but with the new one there would be two.
    have fewer := congrArg List.length single
    have more := congrArg List.length (emptied.1.symm.trans replaced.lines)
    simp only [Buffer.linesWithout, List.length_append, List.length_cons,
      List.length_nil] at fewer more
    omega
  · intro several
    obtain ⟨lines, cursor⟩ := place_changeLines within several
    exact ⟨mode_changeLines engine first count, lines, cursor,
      get?_changeLines first count⟩

theorem typed_change_visual {selection : Selection} {keys : PendingKeys}
    (visual : engine.mode = .visual selection keys)
    (lines : selection.kind = .lines) (motions : keys.OnlyMotions)
    (quiet : ¬ engine.AwaitsCharacter) :
    engine.typed ['c'] =
      (engine.enter (.visual selection .none)).changeLines selection.first.line
        (selectedLines selection) := by
  obtain ⟨count, read⟩ := reading?_visual_single visual motions quiet
    (KeyEvent.hasCommand_char 'c') rfl rfl rfl
  rw [typed_singleton]
  refine (press_of_single_visual visual read).trans ?_
  change (engine.enter (.visual selection .none)).changeSelection selection = _
  rw [changeSelection, lines]

theorem kind_typed_awaited {selection : Selection} {keys : PendingKeys}
    (visual : engine.mode = .visual selection keys) (motions : keys.OnlyMotions)
    (awaits : engine.AwaitsCharacter) (c : Char) :
    (engine.typed [c]).mode.kind = .visual := by
  obtain ⟨command, count, read, pressed⟩ :=
    pressKey_visual_of_awaitsCharacter visual awaits c
  rw [typed_singleton]
  refine (congrArg (·.mode.kind) pressed).trans ?_
  rcases runKeyCommand_of_onlyMotions motions read
    (engine.enter (.visual selection .none)) with
    same | ⟨p, moved⟩
  · rw [same]
    rfl
  · rw [moved]
    exact kind_follow (.visual selection .none) _

/--
The keys that change whole lines replace them by one empty line, but not if all
that is left is one line and it is empty: the text is then taken to have no
lines. Besides, in normal mode the second key must come before the first one is
dropped, and in visual mode the key must not be one that is looked for.
-/
theorem Reachable.changed_lines_replaced_iff (reachable : Reachable engine) :
    (engine.mode = .normal .none → ∀ n, 1 ≤ n → n ≤ maxCount →
      ((engine.typed (Text.decimal n ++ ['S'])).HasReplaced engine.buffer
          engine.cursor.line n ↔
        engine.buffer.linesWithout engine.cursor.line n ≠ [[]]) ∧
      ((engine.typed (Text.decimal n ++ ['c', 'c'])).HasReplaced engine.buffer
          engine.cursor.line n ↔
        engine.buffer.linesWithout engine.cursor.line n ≠ [[]] ∧
          engine.now < engine.now + engine.settings.wait)) ∧
    (∀ selection keys, engine.mode = .visual selection keys →
      selection.kind = .lines →
        ((engine.typed ['c']).HasReplaced engine.buffer selection.first.line
            (selectedLines selection) ↔
          engine.buffer.linesWithout selection.first.line
              (selectedLines selection) ≠ [[]] ∧
            ¬ engine.AwaitsCharacter)) := by
  have coherent := reachable.coherent
  constructor
  · intro normal n positive limited
    have replaces := @hasReplaced_changeLines_iff engine _ n coherent.cursor.1
    have substituted : engine.typed (Text.decimal n ++ ['S']) =
        engine.changeLines engine.cursor.line n :=
      typed_count_single normal positive limited rfl rfl
    rw [substituted]
    refine ⟨replaces, ?_⟩
    by_cases timely : engine.now < engine.now + engine.settings.wait
    · rw [and_iff_left timely,
        typed_count_command normal positive limited rfl rfl rfl timely]
      exact replaces
    · rw [typed_count_late normal positive limited rfl rfl timely,
        typed_count_prefix normal positive limited rfl rfl]
      refine iff_of_false (not_hasReplaced_of_kind_ne ?_) fun both =>
        timely both.2
      simp [enter, Mode.kind]
  · intro selection keys visual lines
    have fits := coherent.mode
    rw [visual] at fits
    obtain ⟨fits, -, motions⟩ := fits
    by_cases awaits : engine.AwaitsCharacter
    · have kind := kind_typed_awaited visual motions awaits 'c'
      refine iff_of_false (not_hasReplaced_of_kind_ne ?_) fun both =>
        both.2 awaits
      simp [kind]
    · rw [typed_change_visual visual lines motions awaits, and_iff_left awaits]
      exact @hasReplaced_changeLines_iff
        (engine.enter (.visual selection .none)) _ _ fits.first.1

/-- Two lines with a third one above or below them. -/
theorem changed_lines_replaced_beside_another :
    let content : Text := "a\n\nb"
    let normal := (ofContent content).run [.setCursor ⟨1, 0⟩]
    let visual := (ofContent content).run
      [.setCursor ⟨1, 0⟩, .pressKey (.char 'V'), .pressKey (.char 'k')]
    let selection : Selection := ⟨⟨1, 0⟩, ⟨0, 0⟩, .lines⟩
    ((Reachable normal ∧ normal.mode = .normal .none) ∧
        Reachable visual ∧ visual.mode = .visual selection .none) ∧
      (normal.typed (Text.decimal 2 ++ ['S'])).HasReplaced normal.buffer 1 2 ∧
      (normal.typed (Text.decimal 2 ++ ['c', 'c'])).HasReplaced
        normal.buffer 1 2 ∧
      (visual.typed ['c']).HasReplaced visual.buffer 0 2 := by
  intro content normal visual selection
  have reachable : Reachable normal := (Reachable.ofContent content).run _
  have selecting : Reachable visual := (Reachable.ofContent content).run _
  have mode : normal.mode = .normal .none := by decide +kernel
  have selected : visual.mode = .visual selection .none := by decide +kernel
  have timely : normal.now < normal.now + normal.settings.wait := by
    decide +kernel
  have quiet := not_awaitsCharacter (congrArg Mode.keys? selected) rfl
  obtain ⟨substituted, changed⟩ :=
    reachable.changed_lines_replaced_iff.1 mode 2 (by decide) (by decide)
  have visually :=
    selecting.changed_lines_replaced_iff.2 selection .none selected rfl
  exact ⟨⟨⟨reachable, mode⟩, selecting, selected⟩,
    substituted.mpr (by decide +kernel),
    changed.mpr ⟨by decide +kernel, timely⟩,
    visually.mpr ⟨by decide +kernel, quiet⟩⟩

/-- Changing the line above an empty one leaves one line and not two. -/
theorem change_above_empty_line_not_replaced :
    let engine := ofContent "a\n\n"
    (Reachable engine ∧ engine.mode = .normal .none ∧ engine.cursor = ⟨0, 0⟩ ∧
        engine.buffer.lines = [['a'], []]) ∧
      (engine.typed (Text.decimal 1 ++ ['c', 'c'])).buffer.lines = [[]] ∧
      ¬ (engine.typed (Text.decimal 1 ++ ['c', 'c'])).HasReplaced
        engine.buffer 0 1 := by
  intro engine
  have left :
      (engine.typed (Text.decimal 1 ++ ['c', 'c'])).buffer.lines = [[]] := by
    decide +kernel
  refine ⟨⟨.ofContent _, rfl, rfl, by decide +kernel⟩, left, fun replaced => ?_⟩
  have lines := replaced.lines
  rw [left] at lines
  exact absurd lines (by decide +kernel)

end Engine

end ModalEditing
