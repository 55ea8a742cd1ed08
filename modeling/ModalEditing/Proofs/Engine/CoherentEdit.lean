import ModalEditing.Proofs.Buffer.Flat
import ModalEditing.Proofs.Engine.Coherent
import ModalEditing.Proofs.Motion.Quotes

namespace ModalEditing

theorem Line.indentation_le (line : Line) : line.indentation ≤ line.length := by
  unfold indentation
  cases found : line.findIdx? (!Unicode.isBlank ·) with
  | none => exact Nat.zero_le _
  | some col =>
      exact Nat.le_of_lt (List.findIdx?_eq_some_iff_findIdx_eq.mp found).1

namespace Buffer

variable {buffer : Buffer}

theorem length_le_lineCount_ofLines (lines : List Line) :
    lines.length ≤ (ofLines lines).lineCount := by
  cases lines <;> simp [ofLines, lineCount]

theorem lines_editLine_ne_nil (nonempty : buffer.lines ≠ []) (line : Nat)
    (edit : Line → Line) : (buffer.editLine line edit).lines ≠ [] := by
  simpa [editLine] using nonempty

theorem lines_insertLines_ne_nil (nonempty : buffer.lines ≠ []) (start : Nat)
    (lines : List Line) : (buffer.insertLines start lines).lines ≠ [] := by
  intro empty
  simp only [insertLines, List.append_eq_nil_iff] at empty
  rw [← List.take_append_drop start buffer.lines, empty.1.1,
    empty.2] at nonempty
  exact nonempty rfl

theorem lines_insertText_ne_nil (buffer : Buffer) (p : Position) (text : Text) :
    (buffer.insertText p text).1.lines ≠ [] := by
  simp [insertText, graft_ne_nil]

theorem lines_deleteSpan_ne_nil (nonempty : buffer.lines ≠ [])
    (first last : Position) : (buffer.deleteSpan first last).1.lines ≠ [] := by
  unfold deleteSpan
  split
  · exact lines_editLine_ne_nil nonempty _ _
  · simp

theorem hasGap_deleteColumns {line start : Nat}
    (gap : buffer.hasGap ⟨line, start⟩ = true) (stop : Nat) :
    (buffer.deleteColumns line start stop).1.hasGap ⟨line, start⟩ = true := by
  obtain ⟨above, left, right, below, rfl, place⟩ := exists_cut gap
  obtain ⟨rfl, rfl⟩ := Position.mk.inj place
  simp only [deleteColumns, editLine_cut, List.take_left]
  exact hasGap_cut above left ((left ++ right).drop (max left.length stop))
    below

theorem hasGap_insertLines {line : Nat} (within : line ≤ buffer.lineCount) :
    (buffer.insertLines line [[]]).hasGap ⟨line, 0⟩ = true := by
  have size : (buffer.lines.take line).length = line :=
    List.length_take_of_le within
  have gap := hasGap_cut (buffer.lines.take line) [] [] (buffer.lines.drop line)
  rw [size] at gap
  simpa [insertLines, cut] using gap

theorem le_lineCount_deleteLines {line : Nat} (within : line ≤ buffer.lineCount)
    (count : Nat) : line ≤ (buffer.deleteLines line count).1.lineCount := by
  refine Nat.le_trans ?_ (length_le_lineCount_ofLines _)
  rw [List.length_append, List.length_take_of_le within]
  exact Nat.le_add_right _ _

theorem isEmpty_deleteLines {line count : Nat}
    (within : line < buffer.lineCount) (positive : 1 ≤ count) :
    (buffer.deleteLines line count).2.isEmpty = false := by
  change line < buffer.lines.length at within
  simp [deleteLines]
  omega

theorem lines_joinNext?_ne_nil {line : Nat} {next : Buffer} {joint : Nat}
    (join : buffer.joinNext? line = some (next, joint)) : next.lines ≠ [] := by
  simp only [joinNext?, Option.map_eq_some_iff, Prod.mk.injEq] at join
  obtain ⟨lower, _, rfl, _⟩ := join
  simp

theorem hasGap_insertChar? {p : Position} (gap : buffer.hasGap p = true)
    {c : Char} {next : Buffer} (inserted : buffer.insertChar? p c = some next) :
    next.hasGap ⟨p.line, p.col + 1⟩ = true := by
  obtain ⟨above, left, right, below, rfl, rfl⟩ := exists_cut gap
  rw [insertChar?_cut] at inserted
  cases inserted
  have behind := hasGap_cut above (left ++ [c]) right below
  simpa [cut] using behind

theorem hasGap_breakLine? {p : Position} (gap : buffer.hasGap p = true)
    {next : Buffer} (broken : buffer.breakLine? p = some next) :
    next.hasGap ⟨p.line + 1, 0⟩ = true := by
  obtain ⟨above, left, right, below, rfl, rfl⟩ := exists_cut gap
  rw [breakLine?_cut] at broken
  cases broken
  have behind := hasGap_cut (above ++ [left]) [] right below
  simpa [cut] using behind

theorem hasGap_deleteChar? {p : Position} (gap : buffer.hasGap p = true) :
    ((buffer.deleteChar? p).getD buffer).hasGap p = true := by
  by_cases char : buffer.hasChar p = true
  · obtain ⟨above, left, right, below, rfl, rfl⟩ := exists_cut gap
    cases right with
    | nil => simp [hasChar_iff] at char
    | cons c right => simp [deleteChar?_cut]
  · simpa [deleteChar?, char] using gap

theorem hasGap_deleteBefore? {p : Position} (gap : buffer.hasGap p = true)
    {next : Buffer} {q : Position}
    (deleted : buffer.deleteBefore? p = some (next, q)) :
    next.hasGap q = true := by
  by_cases positive : 0 < buffer.offset p
  · obtain ⟨_, _, same, _, behind, _⟩ := exists_deleteBefore? gap positive
    cases deleted.symm.trans same
    exact behind
  · have absent := deleteBefore?_eq_none gap (Nat.eq_zero_of_not_pos positive)
    cases deleted.symm.trans absent

end Buffer

namespace Engine

variable {engine : Engine}

/--
What a deletion that starts under the cursor does: nothing, or a cut on the
cursor's line.
-/
inductive CutsHere (engine : Engine) : Engine → Prop where
  | nothing : CutsHere engine engine
  | columns (inside : engine.cursor.col < engine.currentLine.length)
      (stop : Nat) :
      CutsHere engine (engine.cut engine.cursor.col stop)

theorem cutsHere_deleteForward (count : Nat) :
    CutsHere engine (engine.deleteForward count) := by
  unfold deleteForward
  dsimp only
  split
  · exact .columns ‹_› _
  · exact .nothing

theorem cutsHere_deleteToLineEnd : CutsHere engine engine.deleteToLineEnd := by
  unfold deleteToLineEnd
  dsimp only
  split
  · exact .columns ‹_› _
  · exact .nothing

theorem cutsHere_deleteWord (count : Nat) :
    CutsHere engine (engine.deleteWord count) := by
  unfold deleteWord
  dsimp only
  split
  · exact .columns ‹_› _
  · exact .nothing

theorem cutsHere_changeWord (count : Nat) :
    CutsHere engine (engine.changeWord count) := by
  unfold changeWord
  dsimp only
  split
  · exact .columns ‹_› _
  · exact .nothing

theorem Ready.cut (ready : engine.Ready) (start stop : Nat) :
    (engine.cut start stop).Ready :=
  ⟨Buffer.lines_editLine_ne_nil ready.lines_ne_nil _ _, ready.mode_eq⟩

theorem Ready.atColumn (ready : engine.Ready) (col : Nat) :
    (engine.atColumn col).Ready :=
  ⟨ready.lines_ne_nil, ready.mode_eq⟩

theorem CutsHere.ready {next : Engine} (cuts : CutsHere engine next)
    (ready : engine.Ready) : next.Ready := by
  cases cuts with
  | nothing => exact ready
  | columns _ stop => exact ready.cut _ stop

theorem CutsHere.coherent_enter_insert {next : Engine}
    (cuts : CutsHere engine next)
    (gap : engine.buffer.hasGap engine.cursor = true) :
    (next.enter .insert).Coherent := by
  cases cuts with
  | nothing => exact coherent_of_insert rfl gap
  | columns _ stop =>
      exact coherent_of_insert rfl (Buffer.hasGap_deleteColumns gap stop)

theorem deleteInside?_eq_some {quote : Char} {next : Engine}
    (deleted : engine.deleteInside? quote = some next) :
    ∃ opening closing, engine.currentLine[opening]? = some quote ∧
      next = (engine.cut (opening + 1) closing).atColumn (opening + 1) := by
  simp only [deleteInside?, Option.map_eq_some_iff] at deleted
  obtain ⟨⟨opening, closing⟩, pair, rfl⟩ := deleted
  exact ⟨opening, closing, Line.quotePair?_opens pair, rfl⟩

theorem Coherent.enter_insert_deleteInside? (coherent : engine.Coherent)
    {quote : Char} {next : Engine}
    (deleted : engine.deleteInside? quote = some next) :
    (next.enter .insert).Coherent := by
  obtain ⟨opening, closing, found, rfl⟩ := deleteInside?_eq_some deleted
  refine coherent_of_insert rfl (Buffer.hasGap_deleteColumns ?_ closing)
  obtain ⟨inside, _⟩ := List.getElem?_eq_some_iff.mp found
  exact (Buffer.hasGap_iff _ _).mpr ⟨coherent.cursor.1, inside⟩

theorem Coherent.deleteBackward (coherent : engine.Coherent)
    (normal : engine.mode = .normal .none) (count : Nat) :
    (engine.deleteBackward count).Coherent := by
  unfold Engine.deleteBackward
  dsimp only
  split
  · exact coherent
  · exact (((coherent.ready normal).cut _ _).atColumn _).clampCursor

theorem Coherent.deleteLines (coherent : engine.Coherent)
    (normal : engine.mode = .normal .none) (line count : Nat) :
    (engine.deleteLines line count).Coherent := by
  unfold Engine.deleteLines
  dsimp only
  split
  · exact coherent
  · exact Ready.clampCursor ⟨Buffer.ofLines_ne_nil _, normal⟩

theorem coherent_changeLines {line : Nat}
    (within : line ≤ engine.buffer.lineCount) (count : Nat) :
    (engine.changeLines line count).Coherent := by
  have bound := Buffer.le_lineCount_deleteLines within count
  unfold changeLines
  dsimp only
  split
  · exact ⟨Buffer.ofLines_ne_nil _,
      Buffer.allows_origin (Buffer.ofLines_ne_nil _) _, trivial⟩
  · exact coherent_of_insert rfl (Buffer.hasGap_insertLines bound)

theorem coherent_openLine {line : Nat}
    (within : line ≤ engine.buffer.lineCount) :
    (engine.openLine line).Coherent :=
  coherent_of_insert rfl (Buffer.hasGap_insertLines within)

theorem joinTimes_lines_ne_nil {buffer : Buffer} (nonempty : buffer.lines ≠ [])
    (line count : Nat) (joint : Option Nat) :
    (joinTimes line count buffer joint).1.lines ≠ [] := by
  induction count generalizing buffer joint with
  | zero => exact nonempty
  | succ count ih =>
      unfold joinTimes
      split
      · rename_i join
        exact ih (Buffer.lines_joinNext?_ne_nil join) _
      · exact nonempty

theorem joinTimes_some (line count : Nat) (buffer : Buffer) (joint : Nat) :
    (joinTimes line count buffer (some joint)).2.isSome := by
  induction count generalizing buffer joint with
  | zero => rfl
  | succ count ih =>
      unfold joinTimes
      split
      · exact ih _ _
      · rfl

theorem joinTimes_eq_none {line count : Nat} {buffer : Buffer}
    {joint : Option Nat} (none : (joinTimes line count buffer joint).2 = none) :
    (joinTimes line count buffer joint).1 = buffer := by
  cases count with
  | zero => rfl
  | succ count =>
      unfold joinTimes at none ⊢
      split at none
      · have some := joinTimes_some line count ‹Buffer› ‹Nat›
        simp [none] at some
      · simp [*]

theorem Coherent.joinLines (coherent : engine.Coherent)
    (normal : engine.mode = .normal .none) (count : Nat) :
    (engine.joinLines count).Coherent := by
  have nonempty :=
    joinTimes_lines_ne_nil coherent.lines_ne_nil engine.cursor.line
      (max count 2 - 1) none
  unfold Engine.joinLines
  generalize joined :
    joinTimes engine.cursor.line (max count 2 - 1) engine.buffer none = result
    at nonempty
  obtain ⟨buffer, joint⟩ := result
  cases joint with
  | none =>
      have same := joinTimes_eq_none (congrArg Prod.snd joined)
      rw [joined] at same
      subst same
      exact coherent
  | some col =>
      refine Ready.coherent_moveTo ?_ _
      exact ⟨nonempty, normal⟩

theorem Coherent.paste (coherent : engine.Coherent)
    (normal : engine.mode = .normal .none) (behind : Bool) (count : Nat) :
    (engine.paste behind count).Coherent := by
  unfold Engine.paste
  dsimp only
  split
  · exact coherent
  · refine Ready.coherent_moveTo ?_ _
    exact ⟨Buffer.lines_insertLines_ne_nil coherent.lines_ne_nil _ _, normal⟩
  · refine Ready.coherent_moveTo ?_ _
    exact ⟨Buffer.lines_insertText_ne_nil _ _ _, normal⟩

theorem Coherent.replaceChar (coherent : engine.Coherent)
    (normal : engine.mode = .normal .none) (c : Char) :
    (engine.replaceChar c).Coherent := by
  unfold Engine.replaceChar
  by_cases char : engine.buffer.hasChar engine.cursor = true
  · obtain ⟨settings, mode, buffer, cursor, registers, lastSearch, notice,
      now⟩ := engine
    obtain ⟨above, left, right, below, rfl, rfl⟩ :=
      Buffer.exists_cut coherent.hasGap
    cases right with
    | nil => simp [Buffer.hasChar_iff] at char
    | cons old right =>
        simp only [Buffer.deleteChar?_cut, Buffer.insertChar?_cut,
          Option.getD_some]
        exact Ready.coherent ⟨by simp, normal⟩
          (Buffer.allows_cut_cons above left c right below _)
  · have absent : engine.buffer.deleteChar? engine.cursor = none := by
      simp [Buffer.deleteChar?, char]
    rw [absent]
    exact coherent

/-! Deletions, yanks and changes of a selection. -/

theorem Coherent.enterNormal (coherent : engine.Coherent)
    (outside : engine.mode.kind ≠ .insert) :
    (engine.enter (.normal .none)).Coherent :=
  coherent.enter outside ModeKind.noConfusion PendingKeys.counted_none

theorem Coherent.deleteSelection (coherent : engine.Coherent)
    (outside : engine.mode.kind ≠ .insert) (selection : Selection) :
    (engine.deleteSelection selection).Coherent := by
  have normal := coherent.enterNormal outside
  unfold Engine.deleteSelection
  dsimp only
  split
  · refine Ready.coherent_moveTo ?_ _
    exact ⟨Buffer.lines_deleteSpan_ne_nil coherent.lines_ne_nil _ _, rfl⟩
  · exact normal.deleteLines rfl _ _

theorem Coherent.yankSelection (coherent : engine.Coherent)
    (selection : Selection) : (engine.yankSelection selection).Coherent := by
  unfold Engine.yankSelection
  dsimp only
  refine Ready.coherent_moveTo ?_ _
  split
  · exact ⟨coherent.lines_ne_nil, rfl⟩
  · exact ⟨coherent.lines_ne_nil, rfl⟩

theorem coherent_moveTo_of_insert (nonempty : engine.buffer.lines ≠ [])
    (insert : engine.mode = .insert) (p : Position) :
    (engine.moveTo p).Coherent := by
  refine coherent_of_insert ?_ ?_
  · simp [moveTo, insert, follow]
  · exact (Buffer.allows_nearest nonempty _ p).hasGap

theorem coherent_changeSelection {selection : Selection}
    (within : selection.first.line < engine.buffer.lineCount) :
    (engine.changeSelection selection).Coherent := by
  unfold changeSelection
  split
  · refine coherent_moveTo_of_insert ?_ rfl _
    exact Buffer.lines_deleteSpan_ne_nil (Buffer.lines_ne_nil_of_lt within) _ _
  · exact coherent_changeLines (Nat.le_of_lt within) _

end Engine

end ModalEditing
