import ModalEditing.Proofs.Engine.WordDeletion

namespace ModalEditing

namespace Buffer

variable {buffer : Buffer}

theorem deleteColumns_of_nil {line start stop : Nat}
    (nothing : (buffer.deleteColumns line start stop).2 = []) :
    (buffer.deleteColumns line start stop).1 = buffer := by
  change ((buffer.lineText line).drop start).take (stop - start) = [] at nothing
  have same : (buffer.lineText line).take start ++
        (buffer.lineText line).drop (max start stop) =
      buffer.lineText line := by
    rcases List.take_eq_nil_iff.mp nothing with before | beyond
    · rw [Nat.max_eq_left (Nat.sub_eq_zero_iff_le.mp before),
        List.take_append_drop]
    · have short := List.drop_eq_nil_iff.mp beyond
      rw [List.take_of_length_le short,
        List.drop_of_length_le (Nat.le_trans short (Nat.le_max_left _ _)),
        List.append_nil]
  refine congrArg Buffer.mk (List.ext_getElem? fun number => ?_)
  rw [List.getElem?_modify]
  split
  · rename_i here
    subst here
    cases found : buffer.lines[line]? with
    | none => rfl
    | some text =>
        have whole : buffer.lineText line = text := by
          rw [lineText, line?, found, Option.getD_some]
        rw [whole] at same
        exact congrArg some same
  · exact Option.map_id'

theorem deleteSpan_of_nil {first last : Position}
    (single : first.line = last.line)
    (nothing : buffer.spanText first last = []) :
    (buffer.deleteSpan first last).1 = buffer := by
  rw [spanText, if_pos single] at nothing
  rw [deleteSpan, if_pos single]
  exact deleteColumns_of_nil nothing

end Buffer

theorem Selection.line_first_eq_iff (selection : Selection) :
    selection.first.line = selection.last.line ↔
      selection.anchor.line = selection.head.line := by
  unfold first last
  split
  · rfl
  · exact eq_comm

namespace Engine

variable {engine next : Engine} {event : KeyEvent} {start : Position}

/-! Deletions that find nothing to delete. -/

/-- The unnamed register as it was, or some text in it. -/
def StoresText (engine next : Engine) : Prop :=
  next.registers.get? Registers.unnamed =
      engine.registers.get? Registers.unnamed ∨
    ∃ text ≠ [], next.registers.get? Registers.unnamed = some text

/--
A key press that has nothing to delete and puts that into the register: between
two quotes that stand side by side, or in a selection on an empty line.
-/
inductive StoresNothing (engine : Engine) (event : KeyEvent) : Prop where
  | inside {command : KeyCommand} {count opening : Nat} {quote : Char}
      (read : engine.reading? event = some (.command command count))
      (quoted : command = .deleteInner quote ∨ command = .changeInner quote)
      (pair : engine.currentLine.quotePair? engine.cursor.col quote =
        some (opening, opening + 1))
  | selected {selection : Selection} {keys : PendingKeys} {count : Nat}
      (visual : engine.mode = .visual selection keys)
      (chars : selection.kind = .chars)
      (read : engine.reading? event = some (.single count))
      (key : event.key = .char 'd' ∨ event.key = .char 'x' ∨
        event.key = .delete ∨ event.key = .char 'c')
      (single : selection.anchor.line = selection.head.line)
      (empty : engine.currentLine = [])

theorem storesText_cut {start stop : Nat} (some : start < stop)
    (inside : start < engine.currentLine.length) :
    StoresText engine (engine.cut start stop) := by
  refine Or.inr ⟨(engine.currentLine.drop start).take (stop - start),
    fun nothing => ?_, (Registers.get?_store _ _ _ _).trans (if_pos rfl)⟩
  have empty := congrArg List.length nothing
  simp only [List.length_take, List.length_drop, List.length_nil] at empty
  omega

theorem storesText_deleteForward {count : Nat} (positive : 1 ≤ count) :
    StoresText engine (engine.deleteForward count) := by
  unfold deleteForward
  dsimp only
  split
  · rename_i inside
    exact storesText_cut (by omega) inside
  · exact Or.inl rfl

theorem storesText_deleteToLineEnd :
    StoresText engine engine.deleteToLineEnd := by
  unfold deleteToLineEnd
  dsimp only
  split
  · rename_i inside
    exact storesText_cut inside inside
  · exact Or.inl rfl

theorem storesText_deleteBackward
    (gap : engine.buffer.hasGap engine.cursor = true) {count : Nat}
    (positive : 1 ≤ count) :
    StoresText engine (engine.deleteBackward count) := by
  have inside : engine.cursor.col ≤ engine.currentLine.length :=
    ((Buffer.hasGap_iff _ _).mp gap).2
  unfold deleteBackward
  dsimp only
  split
  · exact Or.inl rfl
  · have some : engine.cursor.col - count < engine.cursor.col := by omega
    exact storesText_cut some (Nat.lt_of_lt_of_le some inside)

theorem storesText_deleteWord (coherent : engine.Coherent) {count : Nat}
    (positive : 1 ≤ count) : StoresText engine (engine.deleteWord count) := by
  by_cases inside : engine.cursor.col < engine.currentLine.length
  · have stop :=
      wordStop_bounds engine.currentLine engine.cursor.col (count - 1) inside
    rw [deleteWord_eq coherent inside positive]
    exact storesText_cut stop.1 inside
  · unfold deleteWord
    dsimp only
    rw [if_neg inside]
    exact Or.inl rfl

theorem lt_wordsEnd {buffer : Buffer} {line col : Nat}
    (inside : col < buffer.lineLength line) (count stop : Nat)
    (behind : col < stop) : col < wordsEnd buffer line count stop := by
  induction count generalizing stop with
  | zero => exact behind
  | succ count ih =>
      unfold wordsEnd
      dsimp only
      split
      · exact inside
      · split
        · exact behind
        · exact ih _ (by omega)

theorem storesText_changeWord (count : Nat) :
    StoresText engine (engine.changeWord count) := by
  unfold changeWord
  dsimp only
  split
  · rename_i inside
    exact storesText_cut (lt_wordsEnd inside _ _ (Line.runEnd_bounds inside).1)
      inside
  · exact Or.inl rfl

theorem storesText_of_deleteInside? {quote : Char}
    (deleted : engine.deleteInside? quote = some next) :
    StoresText engine next ∨ ∃ opening,
        engine.currentLine.quotePair? engine.cursor.col quote =
      some (opening, opening + 1) := by
  simp only [deleteInside?, Option.map_eq_some_iff] at deleted
  obtain ⟨⟨opening, closing⟩, pair, rfl⟩ := deleted
  obtain ⟨-, closes, ordered⟩ := Line.quotePair?_ordered pair
  have inside := Line.lt_length_of_mem_columnsOf closes
  rcases Nat.eq_or_lt_of_le (Nat.succ_le_of_lt ordered) with beside | apart
  · subst beside
    exact Or.inr ⟨opening, pair⟩
  · exact Or.inl (storesText_cut apart (Nat.lt_trans apart inside))

theorem spanText_eq_nil_iff {selection : Selection}
    (fits : selection.Fits engine.buffer engine.cursor) :
    engine.buffer.spanText selection.first selection.last = [] ↔
      selection.anchor.line = selection.head.line ∧
        engine.currentLine = [] := by
  unfold Buffer.spanText
  split
  · rename_i single
    have ends := selection.line_first_eq_iff.mp single
    have here : selection.first.line = engine.cursor.line := by
      unfold Selection.first
      split
      · exact ends.trans fits.head_line
      · exact fits.head_line
    have inside : selection.first.col ≤ engine.currentLine.length - 1 := by
      have inside := fits.first.2
      rwa [here] at inside
    have ordered : selection.first.col ≤ selection.last.col := by
      rcases selection.first_le_last with above | ⟨-, before⟩
      · exact absurd single (Nat.ne_of_lt above)
      · exact before
    rw [and_iff_right ends, here, List.take_eq_nil_iff, List.drop_eq_nil_iff,
      ← List.length_eq_zero_iff]
    change
      selection.last.col + 1 - selection.first.col = 0 ∨
          engine.currentLine.length ≤ selection.first.col ↔
        engine.currentLine.length = 0
    omega
  · rename_i several
    refine iff_of_false ?_ fun both =>
      several (selection.line_first_eq_iff.mpr both.1)
    obtain ⟨second, rest, lower⟩ := List.exists_cons_of_ne_nil
      (List.append_ne_nil_of_right_ne_nil
        ((engine.buffer.lines.take selection.last.line).drop
          (selection.first.line + 1))
        (List.cons_ne_nil ((engine.buffer.lineText selection.last.line).take
          (selection.last.col + 1)) []))
    rw [lower, Text.joinLines_cons_cons]
    simp

/-! What the keys that may store nothing do to the text and the registers. -/

theorem press_inside {command : KeyCommand} {count : Nat} {quote : Char}
    (read : engine.reading? event = some (.command command count))
    (quoted : command = .deleteInner quote ∨ command = .changeInner quote) :
    (engine.press event).engine.buffer =
        ((engine.deleteInside? quote).getD engine).buffer ∧
      (engine.press event).engine.registers =
        ((engine.deleteInside? quote).getD engine).registers := by
  have pair : (engine.enter (engine.mode.withKeys .none)).currentLine.quotePair?
      (engine.enter (engine.mode.withKeys .none)).cursor.col quote =
        engine.currentLine.quotePair? engine.cursor.col quote := rfl
  rw [press_of_command read]
  rcases quoted with rfl | rfl
  · simp only [runKeyCommand, deleteInside?, pair]
    cases engine.currentLine.quotePair? engine.cursor.col quote <;>
      exact ⟨rfl, rfl⟩
  · simp only [runKeyCommand, deleteInside?, pair]
    cases engine.currentLine.quotePair? engine.cursor.col quote <;>
      exact ⟨rfl, rfl⟩

theorem press_selected {selection : Selection} {keys : PendingKeys}
    {count : Nat} (visual : engine.mode = .visual selection keys)
    (chars : selection.kind = .chars)
    (read : engine.reading? event = some (.single count))
    (key : event.key = .char 'd' ∨ event.key = .char 'x' ∨ event.key = .delete ∨
      event.key = .char 'c') :
    (engine.press event).engine.buffer =
        (engine.cutSelection selection).buffer ∧
      (engine.press event).engine.registers =
        (engine.cutSelection selection).registers := by
  let bare := engine.enter (.visual selection .none)
  have deleted : (bare.deleteSelection selection).buffer =
        (engine.cutSelection selection).buffer ∧
      (bare.deleteSelection selection).registers =
        (engine.cutSelection selection).registers := by
    simp only [deleteSelection, chars]
    exact ⟨rfl, rfl⟩
  have changed : (bare.changeSelection selection).buffer =
        (engine.cutSelection selection).buffer ∧
      (bare.changeSelection selection).registers =
        (engine.cutSelection selection).registers := by
    simp only [changeSelection, chars]
    exact ⟨rfl, rfl⟩
  rw [press_of_single_visual visual read]
  rcases key with key | key | key | key <;> rw [key]
  · exact deleted
  · exact deleted
  · exact deleted
  · exact changed

theorem DeletesChars.storesText (coherent : engine.Coherent)
    (deletes : engine.DeletesChars event start) :
    StoresText engine (engine.press event).engine ∨
      engine.StoresNothing event := by
  have gap := coherent.hasGap
  cases deletes with
  | forward normal read key =>
      rename_i keys count
      let bare := engine.enter (.normal .none)
      have deleted :=
        @storesText_deleteForward bare count (coherent.single_pos read)
      have rest := @storesText_deleteToLineEnd bare
      refine Or.inl ?_
      rw [press_of_single_normal normal read]
      rcases key with key | key | key | key | key <;> rw [key]
      · exact deleted
      · exact deleted
      · exact deleted
      · exact rest
      · exact rest
  | backward normal read key =>
      have positive := coherent.single_pos read
      refine Or.inl ?_
      rw [press_of_single_normal normal read, key]
      exact @storesText_deleteBackward (engine.enter (.normal .none))
        gap _ positive
  | word read words =>
      rename_i command count
      let bare := engine.enter (engine.mode.withKeys .none)
      have positive := coherent.command_pos read
      refine Or.inl ?_
      rw [press_of_command read]
      rcases words with rfl | rfl
      · exact @storesText_deleteWord bare coherent.withoutKeys count positive
      · exact @storesText_changeWord bare count
  | inside read quoted place =>
      rename_i command count quote
      have registers := (press_inside read quoted).2
      unfold StoresText
      rw [registers]
      cases deleted : engine.deleteInside? quote with
      | none => exact Or.inl (Or.inl rfl)
      | some next =>
          refine (storesText_of_deleteInside? deleted).imp_right ?_
          rintro ⟨opening, pair⟩
          exact .inside read quoted pair
  | selected visual chars read key =>
      rename_i selection keys count
      have fits := coherent.mode
      rw [visual] at fits
      have stored :
          (engine.press event).engine.registers.get? Registers.unnamed =
            some (engine.buffer.spanText selection.first selection.last) := by
        rw [(press_selected visual chars read key).2]
        exact (Registers.get?_store _ _ _ _).trans (if_pos rfl)
      by_cases nothing : engine.buffer.spanText selection.first selection.last =
        []
      · obtain ⟨single, empty⟩ := (spanText_eq_nil_iff fits.1).mp nothing
        exact Or.inr (.selected visual chars read key single empty)
      · exact Or.inl (Or.inr ⟨_, nothing, stored⟩)

theorem StoresNothing.press (coherent : engine.Coherent)
    (empty : engine.StoresNothing event) :
    (engine.press event).engine.buffer.lines = engine.buffer.lines ∧
      (engine.press event).engine.registers.get? Registers.unnamed =
        some [] := by
  cases empty with
  | inside read quoted pair =>
      rename_i command count opening quote
      obtain ⟨buffer, registers⟩ := press_inside read quoted
      have nothing :
          (engine.buffer.deleteColumns engine.cursor.line (opening + 1)
            (opening + 1)).2 = [] := by
        simp [Buffer.deleteColumns]
      rw [buffer, registers, deleteInside?, pair]
      refine ⟨congrArg Buffer.lines (Buffer.deleteColumns_of_nil nothing), ?_⟩
      refine (Registers.get?_store _ _ _ _).trans ?_
      rw [if_pos rfl]
      exact congrArg some nothing
  | selected visual chars read key single empty =>
      rename_i selection keys count
      have fits := coherent.mode
      rw [visual] at fits
      have nothing := (spanText_eq_nil_iff fits.1).mpr ⟨single, empty⟩
      obtain ⟨buffer, registers⟩ := press_selected visual chars read key
      rw [buffer, registers]
      constructor
      · have ends := selection.line_first_eq_iff.mpr single
        exact congrArg Buffer.lines (Buffer.deleteSpan_of_nil ends nothing)
      · refine (Registers.get?_store _ _ _ _).trans ?_
        rw [if_pos rfl]
        exact congrArg some nothing

theorem KeepsText.stored_of_lines_eq (keeps : KeepsText engine next start)
    (same : next.buffer.lines = engine.buffer.lines) :
    next.registers.get? Registers.unnamed =
        engine.registers.get? Registers.unnamed ∨
      next.registers.get? Registers.unnamed = some [] := by
  rcases keeps with ⟨-, kept⟩ | ⟨text, stored, whole⟩
  · exact Or.inl kept
  · refine Or.inr (stored.trans (congrArg some (List.length_eq_zero_iff.mp ?_)))
    have size := congrArg List.length whole
    rw [Buffer.text, Buffer.text, same, Text.length_splice] at size
    omega

/--
A deletion that changes no line leaves the unnamed register alone, except that
one with nothing to delete between quotes or in a selection puts an empty text
there.
-/
theorem Reachable.empty_deletion_keeps_register_iff
    (reachable : Reachable engine) (deletes : engine.DeletesChars event start) :
    let next := (engine.press event).engine
    (next.buffer.lines = engine.buffer.lines →
        next.registers.get? Registers.unnamed =
          engine.registers.get? Registers.unnamed) ↔
      (engine.StoresNothing event →
        engine.registers.get? Registers.unnamed = some []) := by
  intro next
  have coherent := reachable.coherent
  constructor
  · intro keeps empty
    obtain ⟨same, stored⟩ := empty.press coherent
    exact (keeps same).symm.trans stored
  · intro already same
    rcases (deletes.keepsText coherent).stored_of_lines_eq same with
        kept | stored
    · exact kept
    · rcases deletes.storesText coherent with
          (kept | ⟨text, some, other⟩) | empty
      · exact kept
      · exact absurd (Option.some.inj (other.symm.trans stored)) some
      · exact stored.trans (already empty).symm

/--
On an empty line there is nothing to delete, and the register keeps what it has.
-/
theorem empty_deletion_keeps_register_on_empty_line :
    let engine := (ofContent "ab\n\nc").run [.typeScript "xj"]
    let event : KeyEvent := .char 'x'
    let next := (engine.press event).engine
    (Reachable engine ∧ engine.DeletesChars event engine.cursor) ∧
      next.buffer.lines = engine.buffer.lines ∧
      next.registers.get? Registers.unnamed = some ['a'] ∧
      ((next.buffer.lines = engine.buffer.lines →
          next.registers.get? Registers.unnamed =
            engine.registers.get? Registers.unnamed) ↔
        (engine.StoresNothing event →
          engine.registers.get? Registers.unnamed = some [])) := by
  intro engine event next
  have reachable : Reachable engine := (Reachable.ofContent _).run _
  have normal : engine.mode = .normal .none := by decide +kernel
  have read : engine.reading? event = some (.single 1) := by decide +kernel
  have deletes : engine.DeletesChars event engine.cursor :=
    .forward normal read (Or.inl rfl)
  exact ⟨⟨reachable, deletes⟩, by decide +kernel, by decide +kernel,
    reachable.empty_deletion_keeps_register_iff deletes⟩

/--
Between quotes that stand side by side, and in a selection on an empty line.
-/
theorem empty_deletion_clears_register :
    let quoted := (ofContent "ab\"\"").run [.typeScript "xdi"]
    let selected := (ofContent "ab\n\nc").run [.typeScript "xjv"]
    (Reachable quoted ∧ Reachable selected) ∧
      (quoted.DeletesChars (.char '"') ⟨0, 2⟩ ∧
        (quoted.press (.char '"')).engine.buffer.lines = quoted.buffer.lines ∧
        quoted.registers.get? Registers.unnamed = some ['a'] ∧
        (quoted.press (.char '"')).engine.registers.get? Registers.unnamed =
          some []) ∧
      selected.DeletesChars (.char 'd') ⟨1, 0⟩ ∧
        (selected.press (.char 'd')).engine.buffer.lines =
          selected.buffer.lines ∧
        selected.registers.get? Registers.unnamed = some ['a'] ∧
        (selected.press (.char 'd')).engine.registers.get? Registers.unnamed =
          some [] := by
  intro quoted selected
  have between : Reachable quoted := (Reachable.ofContent _).run _
  have selecting : Reachable selected := (Reachable.ofContent _).run _
  have pair :
      quoted.currentLine.quotePair? quoted.cursor.col '"' = some (1, 2) := by
    decide +kernel
  have place : (⟨0, 2⟩ : Position) = ⟨quoted.cursor.line, 1 + 1⟩ := by
    decide +kernel
  have inside : quoted.DeletesChars (.char '"') ⟨0, 2⟩ := by
    refine @DeletesChars.inside _ _ (.deleteInner '"') 1 '"' _
      (by decide +kernel) (Or.inl rfl) fun opening closing found => ?_
    obtain ⟨rfl, rfl⟩ := Prod.mk.inj (Option.some.inj (pair.symm.trans found))
    exact place
  have line : selected.DeletesChars (.char 'd') ⟨1, 0⟩ :=
    @DeletesChars.selected _ _ ⟨⟨1, 0⟩, ⟨1, 0⟩, .chars⟩ .none 1
      (by decide +kernel) rfl (by decide +kernel) (Or.inl rfl)
  exact ⟨⟨between, selecting⟩,
    ⟨inside, by decide +kernel, by decide +kernel, by decide +kernel⟩,
    line, by decide +kernel, by decide +kernel, by decide +kernel⟩

end Engine

end ModalEditing
