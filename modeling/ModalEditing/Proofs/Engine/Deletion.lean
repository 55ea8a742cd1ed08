import ModalEditing.Proofs.Engine.CursorBounds
import ModalEditing.Proofs.Engine.Reading

namespace ModalEditing

namespace Buffer

open Text

variable {buffer : Buffer}

theorem deleteColumns_cut (above : List Line) (left right : Line)
    (below : List Line) (stop : Nat) :
    (cut above left right below).deleteColumns above.length left.length stop =
      (cut above left (right.drop (stop - left.length)) below,
        right.take (stop - left.length)) := by
  have kept : (left ++ right).take left.length ++
      (left ++ right).drop (max left.length stop) =
        left ++ right.drop (stop - left.length) := by
    have skipped : max left.length stop - left.length = stop - left.length := by
      omega
    rw [List.take_left, List.drop_append,
      List.drop_eq_nil_of_le (Nat.le_max_left _ _), skipped, List.nil_append]
  have removed : ((left ++ right).drop left.length).take (stop - left.length) =
      right.take (stop - left.length) := by
    rw [List.drop_left]
  simp only [deleteColumns, editLine_cut, lineText_cut, kept, removed]
  rfl

theorem splice_deleteColumns {line start : Nat}
    (gap : buffer.hasGap ⟨line, start⟩ = true) (stop : Nat) :
    splice (buffer.deleteColumns line start stop).1.text
      (buffer.offset ⟨line, start⟩) (buffer.deleteColumns line start stop).2 =
        buffer.text := by
  obtain ⟨above, left, right, below, rfl, place⟩ := exists_cut gap
  obtain ⟨rfl, rfl⟩ := Position.mk.inj place
  rw [deleteColumns_cut, text_cut, text_cut, offset_cut, splice_append,
    List.append_assoc, List.append_assoc, List.append_assoc,
    ← List.append_assoc (right.take _), List.take_append_drop,
    ← List.append_assoc]

theorem splice_deleteSpan {first last : Position}
    (start : buffer.hasGap first = true) (stop : buffer.hasGap last = true)
    (ordered : first ≤ last) :
    splice (buffer.deleteSpan first last).1.text (buffer.offset first)
      (buffer.deleteSpan first last).2 = buffer.text := by
  obtain ⟨above, left, pieces, right, below, span⟩ :=
    exists_span start stop ordered
  rw [span.deleteSpan_eq, text_cut, span.offset_first, splice_append,
    span.text_eq, List.append_assoc]

end Buffer

namespace Engine

variable {engine next : Engine}

/-! What the keys that delete take out of the text, and where it goes. -/

/--
A key press that deletes characters, and the place where they start. Between
quotes there may be nothing to delete, and then no such place.
-/
inductive DeletesChars (engine : Engine)
    (event : KeyEvent) : Position → Prop where
  | forward {keys : PendingKeys} {count : Nat}
      (normal : engine.mode = .normal keys)
      (read : engine.reading? event = some (.single count))
      (key : event.key = .char 'x' ∨ event.key = .delete ∨
        event.key = .char 's' ∨ event.key = .char 'D' ∨ event.key = .char 'C') :
      DeletesChars engine event engine.cursor
  | backward {keys : PendingKeys} {count : Nat}
      (normal : engine.mode = .normal keys)
      (read : engine.reading? event = some (.single count))
      (key : event.key = .char 'X') :
      DeletesChars engine event ⟨engine.cursor.line, engine.cursor.col - count⟩
  | word {command : KeyCommand} {count : Nat}
      (read : engine.reading? event = some (.command command count))
      (words : command = .deleteWord ∨ command = .changeWord) :
      DeletesChars engine event engine.cursor
  | inside {command : KeyCommand} {count : Nat} {quote : Char}
      {start : Position}
      (read : engine.reading? event = some (.command command count))
      (quoted : command = .deleteInner quote ∨ command = .changeInner quote)
      (place : ∀ opening closing,
        engine.currentLine.quotePair? engine.cursor.col quote =
          some (opening, closing) → start = ⟨engine.cursor.line, opening + 1⟩) :
      DeletesChars engine event start
  | selected {selection : Selection} {keys : PendingKeys} {count : Nat}
      (visual : engine.mode = .visual selection keys)
      (chars : selection.kind = .chars)
      (read : engine.reading? event = some (.single count))
      (key : event.key = .char 'd' ∨ event.key = .char 'x' ∨
        event.key = .delete ∨ event.key = .char 'c') :
      DeletesChars engine event selection.first

/--
A key press that deletes lines, the first of them, and how many they are if
there are so many.
-/
inductive DeletesLines (engine : Engine)
    (event : KeyEvent) : Nat → Nat → Prop where
  | command {command : KeyCommand} {count : Nat}
      (read : engine.reading? event = some (.command command count))
      (lines : command = .deleteLines ∨ command = .changeLines) :
      DeletesLines engine event engine.cursor.line count
  | substituted {keys : PendingKeys} {count : Nat}
      (normal : engine.mode = .normal keys)
      (read : engine.reading? event = some (.single count))
      (key : event.key = .char 'S') :
      DeletesLines engine event engine.cursor.line count
  | selected {selection : Selection} {keys : PendingKeys} {count : Nat}
      (visual : engine.mode = .visual selection keys)
      (lines : selection.kind = .lines)
      (read : engine.reading? event = some (.single count))
      (key : event.key = .char 'd' ∨ event.key = .char 'x' ∨
        event.key = .delete ∨ event.key = .char 'c') :
      DeletesLines engine event selection.first.line
        (selection.last.line - selection.first.line + 1)

/--
Either nothing is deleted, or the text is the one left with the register put in
at the start.
-/
def KeepsText (engine next : Engine) (start : Position) : Prop :=
  next.buffer.lines = engine.buffer.lines ∧
      next.registers.get? Registers.unnamed =
        engine.registers.get? Registers.unnamed ∨
    ∃ text, next.registers.get? Registers.unnamed = some text ∧
      engine.buffer.text =
        Text.splice next.buffer.text (engine.buffer.offset start) text

theorem keepsText_refl (engine : Engine) (start : Position) :
    KeepsText engine engine start :=
  Or.inl ⟨rfl, rfl⟩

theorem keepsText_cut {start : Nat}
    (gap : engine.buffer.hasGap ⟨engine.cursor.line, start⟩ = true)
    (stop : Nat) :
    KeepsText engine (engine.cut start stop) ⟨engine.cursor.line, start⟩ := by
  refine Or.inr ⟨(engine.buffer.deleteColumns engine.cursor.line start stop).2,
    ?_, ?_⟩
  · exact (Registers.get?_store _ _ _ _).trans (if_pos rfl)
  · exact (Buffer.splice_deleteColumns gap stop).symm

theorem CutsHere.keepsText (cuts : CutsHere engine next)
    (gap : engine.buffer.hasGap engine.cursor = true) :
    KeepsText engine next engine.cursor := by
  cases cuts with
  | nothing => exact keepsText_refl engine engine.cursor
  | columns _ stop => exact keepsText_cut gap stop

theorem keepsText_deleteBackward
    (gap : engine.buffer.hasGap engine.cursor = true) (count : Nat) :
    KeepsText engine (engine.deleteBackward count)
      ⟨engine.cursor.line, engine.cursor.col - count⟩ := by
  unfold deleteBackward
  dsimp only
  split
  · exact keepsText_refl engine _
  · refine keepsText_cut ?_ engine.cursor.col
    obtain ⟨within, inside⟩ := (Buffer.hasGap_iff _ _).mp gap
    exact (Buffer.hasGap_iff _ _).mpr
      ⟨within, Nat.le_trans (Nat.sub_le _ _) inside⟩

theorem keepsText_of_deleteInside?
    (within : engine.cursor.line < engine.buffer.lineCount) {quote : Char}
    (deleted : engine.deleteInside? quote = some next) {start : Position}
    (place : ∀ opening closing,
      engine.currentLine.quotePair? engine.cursor.col quote =
        some (opening, closing) → start = ⟨engine.cursor.line, opening + 1⟩) :
    KeepsText engine next start := by
  simp only [deleteInside?, Option.map_eq_some_iff] at deleted
  obtain ⟨⟨opening, closing⟩, pair, rfl⟩ := deleted
  obtain ⟨inside, _⟩ :=
    List.getElem?_eq_some_iff.mp (Line.quotePair?_opens pair)
  rw [place opening closing pair]
  have gap : engine.buffer.hasGap ⟨engine.cursor.line, opening + 1⟩ = true :=
    (Buffer.hasGap_iff _ _).mpr ⟨within, inside⟩
  exact keepsText_cut gap closing

theorem keepsText_cutSelection {selection : Selection}
    (fits : selection.Fits engine.buffer engine.cursor) :
    KeepsText engine (engine.cutSelection selection) selection.first := by
  refine Or.inr ⟨(engine.buffer.deleteSpan selection.first selection.last).2,
    ?_, ?_⟩
  · exact (Registers.get?_store _ _ _ _).trans (if_pos rfl)
  · exact (Buffer.splice_deleteSpan fits.first.hasGap fits.last.hasGap
      selection.first_le_last).symm

theorem keepsText_deleteSelection {selection : Selection}
    (chars : selection.kind = .chars)
    (fits : selection.Fits engine.buffer engine.cursor) :
    KeepsText engine (engine.deleteSelection selection) selection.first := by
  simp only [deleteSelection, chars]
  exact keepsText_cutSelection fits

theorem keepsText_changeSelection {selection : Selection}
    (chars : selection.kind = .chars)
    (fits : selection.Fits engine.buffer engine.cursor) :
    KeepsText engine (engine.changeSelection selection) selection.first := by
  simp only [changeSelection, chars]
  exact keepsText_cutSelection fits

theorem DeletesChars.keepsText (coherent : engine.Coherent) {event : KeyEvent}
    {start : Position} (deletes : engine.DeletesChars event start) :
    KeepsText engine (engine.press event).engine start := by
  have gap := coherent.hasGap
  cases deletes with
  | forward normal read key =>
      rename_i keys count
      let bare := engine.enter (.normal .none)
      have deleted := (@cutsHere_deleteForward bare count).keepsText gap
      have rest := (@cutsHere_deleteToLineEnd bare).keepsText gap
      rw [press_of_single_normal normal read]
      rcases key with key | key | key | key | key <;> rw [key]
      · exact deleted
      · exact deleted
      · exact deleted
      · exact rest
      · exact rest
  | backward normal read key =>
      rw [press_of_single_normal normal read, key]
      exact @keepsText_deleteBackward (engine.enter (.normal .none)) gap _
  | word read words =>
      rename_i command count
      let bare := engine.enter (engine.mode.withKeys .none)
      rw [press_of_command read]
      rcases words with rfl | rfl
      · exact (@cutsHere_deleteWord bare count).keepsText gap
      · exact (@cutsHere_changeWord bare count).keepsText gap
  | inside read quoted place =>
      rename_i command count quote
      let bare := engine.enter (engine.mode.withKeys .none)
      have within : bare.cursor.line < bare.buffer.lineCount :=
        coherent.cursor.1
      have kept (next : Engine)
          (deleted : bare.deleteInside? quote = some next) :
          KeepsText engine next start :=
        keepsText_of_deleteInside? within deleted place
      rw [press_of_command read]
      rcases quoted with rfl | rfl
      · simp only [runKeyCommand]
        cases deleted : bare.deleteInside? quote with
        | none => exact keepsText_refl engine start
        | some next => exact kept next deleted
      · simp only [runKeyCommand]
        cases deleted : bare.deleteInside? quote with
        | none => exact keepsText_refl engine start
        | some next => exact kept next deleted
  | selected visual chars read key =>
      rename_i selection keys count
      let bare := engine.enter (.visual selection .none)
      have fits := coherent.mode
      rw [visual] at fits
      have deleted := @keepsText_deleteSelection bare selection chars fits.1
      have changed := @keepsText_changeSelection bare selection chars fits.1
      rw [press_of_single_visual visual read]
      rcases key with key | key | key | key <;> rw [key]
      · exact deleted
      · exact deleted
      · exact deleted
      · exact changed

/-! Whole lines. -/

theorem get?_storeLines (lines : List Line) :
    (engine.storeLines lines).registers.get? Registers.unnamed =
      some (RegisterContent.encodeLines lines) :=
  (Registers.get?_store _ _ _ _).trans (if_pos rfl)

theorem get?_deleteLines {line count : Nat}
    (within : line < engine.buffer.lineCount) (positive : 1 ≤ count) :
    (engine.deleteLines line count).registers.get? Registers.unnamed =
      some (RegisterContent.encodeLines
        ((engine.buffer.lines.drop line).take count)) := by
  have some := Buffer.isEmpty_deleteLines within positive
  simp only [deleteLines, some]
  exact get?_storeLines _

theorem get?_changeLines (line count : Nat) :
    (engine.changeLines line count).registers.get? Registers.unnamed =
      some (RegisterContent.encodeLines
        ((engine.buffer.lines.drop line).take count)) := by
  unfold changeLines
  dsimp only
  split
  · exact get?_storeLines _
  · exact get?_storeLines _

theorem get?_deleteSelection {selection : Selection}
    (lines : selection.kind = .lines)
    (fits : selection.Fits engine.buffer engine.cursor) :
    (engine.deleteSelection selection).registers.get? Registers.unnamed =
      some (RegisterContent.encodeLines
        ((engine.buffer.lines.drop selection.first.line).take
          (selectedLines selection))) := by
  simp only [deleteSelection, lines]
  exact get?_deleteLines fits.first.1 (Nat.le_add_left 1 _)

theorem get?_changeSelection {selection : Selection}
    (lines : selection.kind = .lines) :
    (engine.changeSelection selection).registers.get? Registers.unnamed =
      some (RegisterContent.encodeLines
        ((engine.buffer.lines.drop selection.first.line).take
          (selectedLines selection))) := by
  simp only [changeSelection, lines]
  exact get?_changeLines _ _

theorem DeletesLines.get?_press (coherent : engine.Coherent) {event : KeyEvent}
    {first count : Nat} (deletes : engine.DeletesLines event first count) :
    (engine.press event).engine.registers.get? Registers.unnamed =
      some (RegisterContent.encodeLines
        ((engine.buffer.lines.drop first).take count)) := by
  cases deletes with
  | command read lines =>
      rename_i command
      let bare := engine.enter (engine.mode.withKeys .none)
      have positive := coherent.command_pos read
      rw [press_of_command read]
      rcases lines with rfl | rfl
      · exact @get?_deleteLines bare _ _ coherent.cursor.1 positive
      · exact @get?_changeLines bare _ _
  | substituted normal read key =>
      rw [press_of_single_normal normal read, key]
      exact @get?_changeLines (engine.enter (.normal .none)) _ _
  | selected visual lines read key =>
      rename_i selection keys count
      let bare := engine.enter (.visual selection .none)
      have fits := coherent.mode
      rw [visual] at fits
      have deleted := @get?_deleteSelection bare selection lines fits.1
      have changed := @get?_changeSelection bare selection lines
      rw [press_of_single_visual visual read]
      rcases key with key | key | key | key <;> rw [key]
      · exact deleted
      · exact deleted
      · exact deleted
      · exact changed

/--
No deletion loses text. Deleted characters are in the unnamed register, and the
text is the one that is left with them put in where they were; deleted lines are
there as whole lines.
-/
theorem Reachable.deleted_text_stored (reachable : Reachable engine)
    (event : KeyEvent) :
    (∀ start, engine.DeletesChars event start →
      KeepsText engine (engine.press event).engine start) ∧
    (∀ first count, engine.DeletesLines event first count →
      (engine.press event).engine.registers.get? Registers.unnamed =
        some (RegisterContent.encodeLines
          ((engine.buffer.lines.drop first).take count))) := by
  have coherent := reachable.coherent
  constructor
  · intro start deletes
    exact deletes.keepsText coherent
  · intro first count deletes
    exact deletes.get?_press coherent

/--
After `2d`, the key `w` deletes two words and the key `d` deletes two lines.
-/
theorem deleted_text_stored_after_counted_prefix :
    let engine := (ofContent "one two three\nx\ny").run
      [.setCursor ⟨0, 4⟩, .pressKey (.char '2'), .pressKey (.char 'd')]
    Reachable engine ∧
      (engine.DeletesChars (.char 'w') ⟨0, 4⟩ ∧
        KeepsText engine (engine.press (.char 'w')).engine ⟨0, 4⟩) ∧
      (engine.DeletesLines (.char 'd') 0 2 ∧
        (engine.press (.char 'd')).engine.registers.get? Registers.unnamed =
          some (RegisterContent.encodeLines
            ((engine.buffer.lines.drop 0).take 2))) := by
  have reachable := (Reachable.ofContent "one two three\nx\ny").run
    [.setCursor ⟨0, 4⟩, .pressKey (.char '2'), .pressKey (.char 'd')]
  have words : DeletesChars ((ofContent "one two three\nx\ny").run
      [.setCursor ⟨0, 4⟩, .pressKey (.char '2'), .pressKey (.char 'd')])
      (.char 'w') ⟨0, 4⟩ :=
    @DeletesChars.word _ _ .deleteWord 2 (by decide +kernel) (Or.inl rfl)
  have lines : DeletesLines ((ofContent "one two three\nx\ny").run
      [.setCursor ⟨0, 4⟩, .pressKey (.char '2'), .pressKey (.char 'd')])
      (.char 'd') 0 2 :=
    @DeletesLines.command _ _ .deleteLines 2 (by decide +kernel) (Or.inl rfl)
  exact ⟨reachable, ⟨words, (reachable.deleted_text_stored _).1 _ words⟩,
    lines, (reachable.deleted_text_stored _).2 _ _ lines⟩

end Engine

end ModalEditing
