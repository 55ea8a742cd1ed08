import ModalEditing.Proofs.Buffer.Flat
import ModalEditing.Proofs.Engine.CursorBounds
import ModalEditing.Proofs.Engine.Press
import ModalEditing.Proofs.Register

namespace ModalEditing

theorem cons_eq_concat_iff {α : Type} {x : α} {rest : List α} :
    x :: rest = rest ++ [x] ↔ ∀ y ∈ rest, y = x := by
  induction rest with
  | nil => simp
  | cons y rest ih =>
      simp only [List.cons_append, List.cons.injEq, List.forall_mem_cons, ← ih]
      constructor
      · rintro ⟨rfl, same⟩
        exact ⟨rfl, same⟩
      · rintro ⟨rfl, same⟩
        exact ⟨rfl, same⟩

namespace Buffer

theorem lineText_eq_nil_of_past {buffer : Buffer} {p : Position}
    (allowed : buffer.Allows .visual p) (zero : (buffer.past p).col = 0) :
    buffer.lineText p.line = [] := by
  obtain ⟨within, inside⟩ := allowed
  have noChar : buffer.hasChar p = false := by
    refine Bool.eq_false_iff.mpr fun char => ?_
    simp [past, char] at zero
  have short : ¬ p.col < buffer.lineLength p.line := fun longer =>
    Bool.eq_false_iff.mp noChar ((hasChar_iff _ _).mpr ⟨within, longer⟩)
  have onCharacter : p.col ≤ buffer.lineLength p.line - 1 := inside
  exact List.length_eq_zero_iff.mp (show buffer.lineLength p.line = 0 by omega)

end Buffer

namespace Engine

variable {engine : Engine}

/-! What `p` and `P` do with the unnamed register. -/

theorem paste_of_content?_eq_none
    (empty : engine.registers.content? Registers.unnamed = none) (behind : Bool)
    (count : Nat) : engine.paste behind count = engine := by
  simp [paste, empty]

theorem buffer_paste_chars {text : Text}
    (content : engine.registers.content? Registers.unnamed = some (.chars text))
    (behind : Bool) (count : Nat) :
    (engine.paste behind count).buffer =
      (engine.buffer.insertText ⟨engine.cursor.line,
        if behind && !engine.currentLine.isEmpty then engine.cursor.col + 1
        else engine.cursor.col⟩ (List.replicate count text).flatten).1 := by
  simp [paste, content, pasteText]

theorem buffer_paste_lines {lines : List Line}
    (content : engine.registers.content? Registers.unnamed =
      some (.lines lines))
    (behind : Bool) (count : Nat) :
    (engine.paste behind count).buffer =
      engine.buffer.insertLines (if behind then engine.cursor.line + 1 else
        engine.cursor.line) (List.replicate count lines).flatten := by
  simp [paste, content, pasteLines]

theorem pressKey_paste (normal : engine.mode = .normal .none) (behind : Bool) :
    (engine.pressKey (.char (if behind then 'p' else 'P'))).engine =
      engine.paste behind 1 := by
  cases behind with
  | true => exact pressKey_normal normal (c := 'p') rfl rfl
  | false => exact pressKey_normal normal (c := 'P') rfl rfl

/-! A selection of characters, cut out and pasted where it was. -/

section Deleted

variable {selection : Selection} {above : List Line} {left : Line}
  {pieces : List Line} {right : Line} {below : List Line}

theorem nearest_cut (above : List Line) (left right : Line)
    (below : List Line) :
    nearest (.cut above left right below) .normal ⟨above.length, left.length⟩ =
      ⟨above.length, min left.length (left.length + right.length - 1)⟩ := by
  have number :
      min above.length (Buffer.cut above left right below).lastLine =
        above.length := by
    rw [Buffer.lastLine, Buffer.lineCount_cut]
    omega
  simp only [nearest, number]
  simp [Buffer.maxCol]

theorem deleteSelection_of_isSpan (chars : selection.kind = .chars)
    (span : engine.buffer.IsSpan selection.first selection.last above left
      pieces right below) :
    engine.deleteSelection selection =
      { engine with
        buffer := .cut above left right below
        cursor :=
          ⟨above.length, min left.length (left.length + right.length - 1)⟩
        mode := .normal .none
        registers :=
          engine.registers.store Registers.unnamed
            (Text.joinLines pieces) } := by
  simp only [deleteSelection, chars, cutSelection, enter, span.deleteSpan_eq]
  simp only [moveTo, store, span.first_eq, Mode.kind, nearest_cut, follow]

theorem insert_column (cursor : engine.cursor =
      ⟨above.length, min left.length (left.length + right.length - 1)⟩)
    (buffer : engine.buffer = .cut above left right below) :
    (if right.isEmpty && !engine.currentLine.isEmpty then engine.cursor.col + 1
      else engine.cursor.col) = left.length := by
  simp only [currentLine, cursor, buffer, Buffer.lineText_cut]
  cases right with
  | nil =>
      cases left with
      | nil => rfl
      | cons c left => simp
  | cons c right => simp

theorem paste_deleted_of_chars (chars : selection.kind = .chars)
    (span : engine.buffer.IsSpan selection.first selection.last above left
      pieces right below)
    (unbroken : ∀ line ∈ engine.buffer.lines, '\n' ∉ line)
    (decoded : RegisterContent.decode? (Text.joinLines pieces) =
      some (.chars (Text.joinLines pieces))) :
    ((engine.deleteSelection selection).paste right.isEmpty 1).buffer =
      engine.buffer := by
  have restored := span.insertText_deleteSpan unbroken
  rw [span.deleteSpan_eq, span.first_eq] at restored
  rw [deleteSelection_of_isSpan chars span,
    buffer_paste_chars ((Registers.content?_store _ _ _).trans decoded),
    insert_column rfl rfl]
  simpa using restored

theorem paste_deleted_of_lines (chars : selection.kind = .chars)
    (span : engine.buffer.IsSpan selection.first selection.last above left
      pieces [] below)
    {lines : List Line}
    (decoded : RegisterContent.decode? (Text.joinLines pieces) =
      some (.lines lines)) :
    ((engine.deleteSelection selection).paste true 1).buffer.lines =
      above ++ left :: lines ++ below := by
  rw [deleteSelection_of_isSpan chars span,
    buffer_paste_lines ((Registers.content?_store _ _ _).trans decoded)]
  simp [Buffer.insertLines, List.take_append, List.drop_append,
    List.take_of_length_le (Nat.le_succ above.length),
    List.drop_eq_nil_of_le (Nat.le_succ above.length)]

theorem paste_deleted_of_nil (chars : selection.kind = .chars)
    (span : engine.buffer.IsSpan selection.first selection.last above left [[]]
      right below)
    (behind : Bool) :
    ((engine.deleteSelection selection).paste behind 1).buffer.lines =
      engine.buffer.lines := by
  rw [deleteSelection_of_isSpan chars span,
    paste_of_content?_eq_none ((Registers.content?_store _ _ _).trans rfl),
    span.lines_eq]
  simp

/-- Lines that only a line break follows come back as lines of their own. -/
theorem paste_deleted_lines_iff_of_break (chars : selection.kind = .chars)
    (unbroken : ∀ line ∈ engine.buffer.lines, '\n' ∉ line)
    (start : engine.buffer.Allows .visual selection.first) {head : Line}
    {middle : List Line}
    (span : engine.buffer.IsSpan selection.first selection.last above left
      (head :: (middle ++ [[]])) [] below) :
    ((engine.deleteSelection selection).paste true 1).buffer.lines =
        engine.buffer.lines ↔
      ∀ text ∈ Buffer.graft left [] (head :: (middle ++ [[]])), text = [] := by
  have unbrokenLines : ∀ line ∈ head :: middle, '\n' ∉ line :=
    fun line member =>
    span.unbroken_pieces unbroken line (List.mem_append_left [[]] member)
  have edge : head = [] → left = [] := by
    rintro rfl
    have onCharacter : selection.first.col ≤
        (engine.buffer.lineText selection.first.line).length - 1 := start.2
    rw [span.lineText_first, span.first_eq, List.append_nil] at onCharacter
    change left.length ≤ left.length - 1 at onCharacter
    exact List.length_eq_zero_iff.mp (by omega)
  rw [paste_deleted_of_lines chars span
    (RegisterContent.decode?_joinLines_concat_nil (List.cons_ne_nil head middle)
      unbrokenLines), span.lines_eq, Buffer.graft_cons_concat,
        List.append_left_inj, List.append_right_inj, List.cons.injEq,
        List.self_eq_append_right]
  constructor
  · rintro ⟨rfl, same⟩
    obtain rfl := edge rfl
    have empty := cons_eq_concat_iff.mp same
    simpa [or_imp, forall_and] using empty
  · intro empty
    obtain ⟨rfl, rfl⟩ := List.append_eq_nil_iff.mp (empty _ List.mem_cons_self)
    refine ⟨rfl, cons_eq_concat_iff.mpr fun text member => empty text ?_⟩
    simp [member]

theorem paste_deleted_lines_iff (chars : selection.kind = .chars)
    (unbroken : ∀ line ∈ engine.buffer.lines, '\n' ∉ line)
    (start : engine.buffer.Allows .visual selection.first)
    (stop : engine.buffer.Allows .visual selection.last)
    (span : engine.buffer.IsSpan selection.first selection.last above left
      pieces right below) :
    ((engine.deleteSelection selection).paste right.isEmpty 1).buffer.lines =
        engine.buffer.lines ↔
      engine.buffer.lineText selection.last.line ≠ [] ∨
        ∀ line, selection.first.line ≤ line → line ≤ selection.last.line →
          engine.buffer.lineText line = [] := by
  have unbrokenPieces := span.unbroken_pieces unbroken
  rcases Buffer.one_or_more span.pieces_ne_nil with
      ⟨only, rfl⟩ | ⟨head, middle, tail, rfl⟩
  · refine iff_of_true ?_ ?_
    · by_cases empty : only = []
      · subst empty
        exact paste_deleted_of_nil chars span _
      · refine congrArg Buffer.lines
          (paste_deleted_of_chars chars span unbroken ?_)
        rw [Text.joinLines_singleton]
        exact RegisterContent.decode?_line empty (unbrokenPieces only (by simp))
    · by_cases empty : engine.buffer.lineText selection.last.line = []
      · refine Or.inr fun line lower upper => ?_
        have number := span.length_graft_eq
        rw [Buffer.graft_singleton, List.length_singleton] at number
        rw [span.first_eq] at lower
        have same : line = selection.last.line := by
          change above.length ≤ line at lower
          omega
        rwa [same]
      · exact Or.inl empty
  · by_cases empty : tail = []
    · subst empty
      have stopped := Buffer.lineText_eq_nil_of_past stop (by
        rw [← span.behind_eq, Buffer.behind_cons_concat, List.length_nil])
      have last := span.lineText_last
      rw [stopped, List.nil_append] at last
      subst last
      have restores :=
        (paste_deleted_lines_iff_of_break chars unbroken start span).trans
          (span.forall_lineText_iff (P := (· = []))).symm
      simpa [stopped] using restores
    · refine iff_of_true ?_ (Or.inl ?_)
      · refine congrArg Buffer.lines
          (paste_deleted_of_chars chars span unbroken ?_)
        exact RegisterContent.decode?_joinLines_concat (head :: middle) empty
          (unbrokenPieces tail (by simp))
      · rw [span.lineText_last]
        simp [empty]

end Deleted

theorem buffer_pressKey_visual_paste {selection : Selection}
    (visual : engine.mode = .visual selection .none) {c : Char}
    (key : c = 'p' ∨ c = 'P') :
    (engine.pressKey (.char c)).engine.buffer = engine.buffer := by
  have quiet := not_awaitsCharacter (congrArg Mode.keys? visual) rfl
  rcases key with rfl | rfl
  · obtain ⟨count, pressed⟩ :=
      pressKey_visual visual PendingKeys.onlyMotions_none quiet
      (c := 'p') rfl rfl
    rw [pressed]
    rfl
  · obtain ⟨count, pressed⟩ :=
      pressKey_visual visual PendingKeys.onlyMotions_none quiet
      (c := 'P') rfl rfl
    rw [pressed]
    rfl

theorem pressKey_of_awaitsCharacter (coherent : engine.Coherent)
    {selection : Selection} {keys : PendingKeys}
    (visual : engine.mode = .visual selection keys)
    (awaits : engine.AwaitsCharacter) (c : Char) :
    ∃ moved, (engine.pressKey (.char c)).engine.buffer = engine.buffer ∧
      (engine.pressKey (.char c)).engine.mode = .visual moved .none := by
  have fits := coherent.mode
  rw [visual] at fits
  obtain ⟨command, count, read, pressed⟩ :=
    pressKey_visual_of_awaitsCharacter visual awaits c
  rw [pressed]
  rcases runKeyCommand_of_onlyMotions fits.2.2 read
    (engine.enter (.visual selection .none)) with same | ⟨p, moved⟩
  · rw [same]
    exact ⟨selection, rfl, rfl⟩
  · rw [moved]
    exact ⟨_, rfl, rfl⟩

theorem pressKey_d_visual (coherent : engine.Coherent) {selection : Selection}
    {keys : PendingKeys} (visual : engine.mode = .visual selection keys)
    (quiet : ¬ engine.AwaitsCharacter) :
    (engine.pressKey (.char 'd')).engine =
      engine.deleteSelection selection := by
  have fits := coherent.mode
  rw [visual] at fits
  obtain ⟨count, pressed⟩ :=
    pressKey_visual visual fits.2.2 quiet (c := 'd') rfl rfl
  rw [pressed]
  rfl

/--
Deleting a selection of characters and pasting it back at the same place
restores the lines, unless the selection ends on an empty line and is not of
empty lines only: its text then ends with a line break, and is pasted as whole
lines.
-/
theorem paste_restores_deleted_selection_iff (reachable : Reachable engine)
    {selection : Selection} {keys : PendingKeys}
    (visual : engine.mode = .visual selection keys)
    (chars : selection.kind = .chars)
    (unbroken : ∀ line ∈ engine.buffer.lines, '\n' ∉ line) :
    let deleted := (engine.pressKey (.char 'd')).engine
    let key :=
      if selection.first.col <
        deleted.buffer.lineLength selection.first.line then 'P' else 'p'
    (deleted.pressKey (.char key)).engine.buffer.lines = engine.buffer.lines ↔
      engine.AwaitsCharacter ∨ engine.buffer.lineText selection.last.line ≠ [] ∨
        ∀ line, selection.first.line ≤ line → line ≤ selection.last.line →
          engine.buffer.lineText line = [] := by
  have coherent := reachable.coherent
  by_cases awaits : engine.AwaitsCharacter
  · obtain ⟨moved, text, mode⟩ :=
      pressKey_of_awaitsCharacter coherent visual awaits 'd'
    refine iff_of_true ?_ (Or.inl awaits)
    rw [buffer_pressKey_visual_paste mode (by split <;> simp), text]
  · have fits := coherent.mode
    rw [visual] at fits
    have start := fits.1.first
    have stop := fits.1.last
    obtain ⟨above, left, pieces, right, below, span⟩ :=
      Buffer.exists_span start.hasGap stop.hasGap selection.first_le_last
    have restores := paste_deleted_lines_iff chars unbroken start stop span
    have deleted := deleteSelection_of_isSpan chars span
    have normal : (engine.deleteSelection selection).mode = .normal .none := by
      rw [deleted]
    have length :
        (engine.deleteSelection selection).buffer.lineLength
            selection.first.line =
          left.length + right.length := by
      rw [deleted, span.first_eq]
      simp
    have key :
        (if selection.first.col <
            (engine.deleteSelection selection).buffer.lineLength
              selection.first.line then 'P' else 'p') =
          if right.isEmpty then 'p' else 'P' := by
      rw [length, span.first_eq]
      cases right <;> simp
    rw [pressKey_d_visual coherent visual awaits]
    dsimp only
    rw [key, pressKey_paste normal]
    simpa [awaits] using restores

theorem paste_restores_two_lines :
    let engine := (ofContent "abc\ndef").run
      [.pressKey (.char 'l'), .pressKey (.char 'v'), .pressKey (.char 'j')]
    Reachable engine ∧ engine.mode = .visual ⟨⟨0, 1⟩, ⟨1, 1⟩, .chars⟩ .none ∧
      (∀ line ∈ engine.buffer.lines, '\n' ∉ line) ∧
      ((engine.pressKey (.char 'd')).engine.pressKey
          (.char 'P')).engine.buffer.lines =
        engine.buffer.lines := by
  have reachable := (Reachable.ofContent "abc\ndef").run
    [.pressKey (.char 'l'), .pressKey (.char 'v'), .pressKey (.char 'j')]
  have visual :
      ((ofContent "abc\ndef").run [.pressKey (.char 'l'),
        .pressKey (.char 'v'), .pressKey (.char 'j')]).mode =
          .visual ⟨⟨0, 1⟩, ⟨1, 1⟩, .chars⟩ .none := by
    decide +kernel
  have unbroken :
      ∀ line ∈ ((ofContent "abc\ndef").run [.pressKey (.char 'l'),
        .pressKey (.char 'v'), .pressKey (.char 'j')]).buffer.lines,
          '\n' ∉ line := by
    decide +kernel
  refine ⟨reachable, visual, unbroken, ?_⟩
  refine
    (paste_restores_deleted_selection_iff reachable visual rfl unbroken).mpr ?_
  exact Or.inr (Or.inl (by decide +kernel))

/--
The text from `b` to the empty line comes back as a line `bc`, and the empty
line is gone.
-/
theorem paste_after_break_not_restored :
    let engine := (ofContent "abc\n\nx").run
      [.pressKey (.char 'l'), .pressKey (.char 'v'), .pressKey (.char 'j')]
    let deleted := (engine.pressKey (.char 'd')).engine
    Reachable engine ∧ engine.mode = .visual ⟨⟨0, 1⟩, ⟨1, 0⟩, .chars⟩ .none ∧
      (∀ line ∈ engine.buffer.lines, '\n' ∉ line) ∧
      deleted.buffer.lineLength 0 = 1 ∧
      (deleted.pressKey (.char 'p')).engine.buffer.lines ≠
        engine.buffer.lines := by
  refine ⟨(Reachable.ofContent _).run _, ?_, ?_, ?_, ?_⟩ <;> decide +kernel

end Engine

end ModalEditing
