import ModalEditing.Proofs.Engine.CoherentEdit
import ModalEditing.Proofs.Engine.Press
import ModalEditing.Proofs.Engine.Reachable

namespace ModalEditing.Engine

variable {engine : Engine}

/-! Searches and the command line. -/

theorem repeatSearch_eq (engine : Engine) (direction : Direction)
    (count : Nat) :
    (∃ p, engine.repeatSearch direction count = engine.moveTo p) ∨
      ∃ notice, engine.repeatSearch direction count = engine.say notice := by
  unfold repeatSearch
  split
  · exact Or.inr ⟨_, rfl⟩
  · split
    · exact Or.inl ⟨_, rfl⟩
    · exact Or.inr ⟨_, rfl⟩

theorem Coherent.repeatSearch (coherent : engine.Coherent)
    (direction : Direction) (count : Nat) :
    (engine.repeatSearch direction count).Coherent := by
  rcases engine.repeatSearch_eq direction count with ⟨p, moved⟩ | ⟨notice, said⟩
  · rw [moved]
    exact coherent.moveTo p
  · rw [said]
    exact coherent.say notice

theorem Coherent.searchWord (coherent : engine.Coherent) :
    engine.searchWord.Coherent := by
  unfold Engine.searchWord
  split
  · refine Coherent.repeatSearch ?_ _ _
    exact ⟨coherent.lines_ne_nil, coherent.cursor, coherent.mode⟩
  · exact coherent

theorem Ready.say (ready : engine.Ready) (notice : Notice) :
    (engine.say notice).Ready :=
  ⟨ready.lines_ne_nil, ready.mode_eq⟩

theorem Ready.repeatSearch (ready : engine.Ready) (direction : Direction)
    (count : Nat) : (engine.repeatSearch direction count).Ready := by
  rcases engine.repeatSearch_eq direction count with ⟨p, moved⟩ | ⟨notice, said⟩
  · rw [moved]
    exact ready.moveTo p
  · rw [said]
    exact ready.say notice

theorem Ready.substitute (ready : engine.Ready) (substitution : Substitution) :
    (engine.substitute substitution).Ready := by
  unfold Engine.substitute
  dsimp only
  split
  · refine ⟨?_, ready.mode_eq⟩
    simpa [changedLines] using ready.lines_ne_nil
  · exact ready.say _

theorem Ready.execute (ready : engine.Ready) (command : ExCommand) :
    (engine.execute command).Ready := by
  cases command with
  | goToLine number => exact ready.moveTo _
  | substitute substitution => exact ready.substitute substitution
  | write => exact ready.say _
  | quit => exact ready.say _
  | writeQuit => exact ready.say _
  | unknown text => exact ready.say _

theorem Ready.runCommandLine (ready : engine.Ready) (line : Text) :
    (engine.runCommandLine line).Ready := by
  unfold Engine.runCommandLine
  split
  · split
    · exact ready.execute _
    · exact ready
  · unfold searchTyped
    refine Ready.repeatSearch ?_ _ _
    split
    · exact ready
    · exact ⟨ready.lines_ne_nil, ready.mode_eq⟩
  · exact ready

/-! Keys. -/

theorem Coherent.runKeyCommand (coherent : engine.Coherent)
    (normal : engine.mode = .normal .none) (command : KeyCommand)
    (count : Nat) : (engine.runKeyCommand command count).Coherent := by
  have ready := coherent.ready normal
  have gap := coherent.hasGap
  have within : engine.cursor.line ≤ engine.buffer.lineCount :=
    Nat.le_of_lt coherent.cursor.1
  cases command with
  | deleteLines => exact coherent.deleteLines normal _ _
  | yankLines => exact ⟨coherent.lines_ne_nil, coherent.cursor, coherent.mode⟩
  | changeLines => exact coherent_changeLines within _
  | deleteWord => exact ((cutsHere_deleteWord count).ready ready).clampCursor
  | changeWord => exact (cutsHere_changeWord count).coherent_enter_insert gap
  | goToFirstLine => exact coherent.moveTo _
  | deleteInner quote =>
      cases deleted : engine.deleteInside? quote with
      | none => simpa [Engine.runKeyCommand, deleted] using coherent
      | some next =>
          obtain ⟨opening, closing, _, rfl⟩ := deleteInside?_eq_some deleted
          simpa [Engine.runKeyCommand, deleted] using
            ((ready.cut (opening + 1) closing).atColumn
              (opening + 1)).clampCursor
  | changeInner quote =>
      cases deleted : engine.deleteInside? quote with
      | none => simpa [Engine.runKeyCommand, deleted] using coherent
      | some next =>
          simpa [Engine.runKeyCommand, deleted]
            using coherent.enter_insert_deleteInside? deleted
  | replace c => exact coherent.replaceChar normal c
  | findForward c => exact coherent.moveToColumn _
  | findBackward c => exact coherent.moveToColumn _

theorem Coherent.insertAt (coherent : engine.Coherent) {col : Nat}
    (inside : col ≤ engine.currentLine.length) :
    ((engine.atColumn col).enter .insert).Coherent :=
  coherent_of_insert rfl
    ((Buffer.hasGap_iff _ _).mpr ⟨coherent.cursor.1, inside⟩)

theorem Coherent.startVisual (coherent : engine.Coherent)
    (outside : engine.mode.kind ≠ .insert) {selection : Selection}
    (selected : selection.Fits engine.buffer engine.cursor) :
    (engine.enter (.visual selection .none)).Coherent :=
  coherent.enter outside ModeKind.noConfusion
    ⟨selected, PendingKeys.counted_none, PendingKeys.onlyMotions_none⟩

theorem Coherent.runNormalAction? (coherent : engine.Coherent)
    (normal : engine.mode = .normal .none) {key : Key} {count : Nat}
    {next : Engine} (run : engine.runNormalAction? key count = some next) :
    next.Coherent := by
  have ready := coherent.ready normal
  have gap := coherent.hasGap
  have outside : engine.mode.kind ≠ .insert := by simp [ready.kind_eq]
  have allowed : engine.buffer.Allows .visual engine.cursor :=
    coherent.cursor.of_ne_insert ModeKind.noConfusion outside
  obtain ⟨within, inside⟩ := allowed
  unfold Engine.runNormalAction? at run
  dsimp only at run
  -- One case for each key, in the order of the definition.
  split at run <;> cases run
  · exact coherent
  · exact coherent_of_insert rfl gap
  · refine coherent.insertAt ?_
    have last : engine.cursor.col ≤ engine.currentLine.length - 1 := inside
    have behind : engine.cursor.col + 1 ≤ engine.currentLine.length ∨
        engine.currentLine.length = 0 ∧ engine.cursor.col = 0 := by omega
    change (if 0 < engine.currentLine.length then
      engine.cursor.col + 1 else engine.cursor.col) ≤ _
    rcases behind with behind | ⟨empty, zero⟩
    · rw [if_pos (Nat.zero_lt_of_lt behind)]
      exact behind
    · rw [empty, zero]
      exact Nat.le_refl 0
  · exact coherent.insertAt (Nat.le_refl _)
  · exact coherent.insertAt (Line.indentation_le _)
  · exact coherent_openLine within
  · exact coherent_openLine (Nat.le_of_lt within)
  · exact (cutsHere_deleteForward count).coherent_enter_insert gap
  · exact coherent_changeLines (Nat.le_of_lt within) count
  · exact cutsHere_deleteToLineEnd.coherent_enter_insert gap
  · exact ((cutsHere_deleteForward count).ready ready).clampCursor
  · exact ((cutsHere_deleteForward count).ready ready).clampCursor
  · exact coherent.deleteBackward normal count
  · exact (cutsHere_deleteToLineEnd.ready ready).clampCursor
  · exact coherent.paste normal true count
  · exact coherent.paste normal false count
  · exact coherent.joinLines normal count
  · exact coherent.startVisual outside
      ⟨⟨within, inside⟩, ⟨within, inside⟩, rfl, fun _ => rfl⟩
  · exact coherent.startVisual outside
      ⟨⟨within, Nat.zero_le _⟩, ⟨within, Nat.le_refl _⟩, rfl,
        SelectionKind.noConfusion⟩
  · exact coherent.enter outside ModeKind.noConfusion (Or.inl rfl)
  · exact coherent.enter outside ModeKind.noConfusion (Or.inr rfl)
  · exact coherent.repeatSearch _ _
  · exact coherent.repeatSearch _ _
  · exact coherent.searchWord
  · exact coherent.say _

theorem Coherent.runNormalKey? (coherent : engine.Coherent)
    (normal : engine.mode = .normal .none) {key : Key} {count : Nat}
    {next : Engine} (run : engine.runNormalKey? key count = some next) :
    next.Coherent := by
  unfold Engine.runNormalKey? at run
  split at run
  · cases run
    exact coherent.moveTo _
  · exact coherent.runNormalAction? normal run

theorem Coherent.runVisualKey? (coherent : engine.Coherent)
    {selection : Selection} (visual : engine.mode = .visual selection .none)
    {key : Key} {count : Nat} {next : Engine}
    (run : engine.runVisualKey? selection key count = some next) :
    next.Coherent := by
  have outside : engine.mode.kind ≠ .insert := by simp [visual, Mode.kind]
  have fits := coherent.mode
  rw [visual] at fits
  obtain ⟨selected, _⟩ := fits
  unfold Engine.runVisualKey? at run
  split at run
  · cases run
    exact coherent.moveTo _
  · unfold runVisualAction? at run
    split at run <;> cases run
    · exact Ready.clampCursor ⟨coherent.lines_ne_nil, rfl⟩
    · exact ⟨coherent.lines_ne_nil, selected.anchor,
        ⟨selected.head, selected.anchor, rfl, fun _ => rfl⟩,
        PendingKeys.counted_none, PendingKeys.onlyMotions_none⟩
    · exact coherent.deleteSelection outside selection
    · exact coherent.deleteSelection outside selection
    · exact coherent.deleteSelection outside selection
    · exact coherent.yankSelection selection
    · exact coherent_changeSelection selected.first.1

theorem Coherent.moveToTarget (coherent : engine.Coherent) (key : Key)
    (count : Nat) :
    (((engine.target? key count).map engine.moveTo).getD engine).Coherent := by
  cases target : engine.target? key count with
  | none => exact coherent
  | some p => exact coherent.moveTo p

theorem Coherent.runInsertKey? (coherent : engine.Coherent)
    (insert : engine.mode = .insert) {key : Key} {next : Engine}
    (run : engine.runInsertKey? key = some next) : next.Coherent := by
  have gap := coherent.hasGap
  unfold Engine.runInsertKey? at run
  cases key with
  | escape =>
      cases run
      exact Ready.clampCursor ⟨coherent.lines_ne_nil, rfl⟩
  | enter =>
      cases run
      split
      · exact coherent_of_insert insert (Buffer.hasGap_breakLine? gap ‹_›)
      · exact coherent
  | backspace =>
      cases run
      split
      · exact coherent_of_insert insert (Buffer.hasGap_deleteBefore? gap ‹_›)
      · exact coherent
  | delete =>
      cases run
      exact coherent_of_insert insert (Buffer.hasGap_deleteChar? gap)
  | tab =>
      cases run
      exact coherent_of_insert insert (Buffer.hasGap_insertText gap _)
  | char c =>
      cases run
      split
      · exact coherent_of_insert insert (Buffer.hasGap_insertChar? gap ‹_›)
      · exact coherent
  | unidentified => contradiction
  | left | right | up | down | home | toEnd =>
      cases run
      exact coherent.moveToTarget _ 1

theorem Coherent.runCommandKey? (coherent : engine.Coherent) {line : Text}
    (command : engine.mode = .command line) {key : Key} {next : Engine}
    (run : engine.runCommandKey? line key = some next) : next.Coherent := by
  have outside : engine.mode.kind ≠ .insert := by simp [command, Mode.kind]
  have fits := coherent.mode
  rw [command] at fits
  have normal := coherent.enterNormal outside
  unfold Engine.runCommandKey? at run
  split at run <;> cases run
  · exact normal
  · exact ((normal.ready rfl).runCommandLine line).clampCursor
  · split
    · exact normal
    · refine coherent.enter outside ModeKind.noConfusion ?_
      rename_i long
      match line, fits with
      | [_], _ => simp at long
      | trigger :: c :: rest, fits => exact fits
  · refine coherent.enter outside ModeKind.noConfusion ?_
    cases line with
    | nil => simp [Mode.Fits] at fits
    | cons trigger rest => exact fits

theorem Coherent.withKeys (coherent : engine.Coherent) {keys : PendingKeys}
    (counted : keys.Counted)
    (motions : ∀ selection pending, engine.mode = .visual selection pending →
      keys.OnlyMotions) :
    (engine.enter (engine.mode.withKeys keys)).Coherent := by
  have fits := coherent.mode
  refine ⟨coherent.lines_ne_nil, ?_, ?_⟩
  · simpa [Engine.enter] using coherent.cursor
  · simp only [Engine.enter]
    cases mode : engine.mode with
    | normal pending => exact counted
    | insert => trivial
    | visual selection pending =>
        rw [mode] at fits
        exact ⟨fits.1, counted, motions selection pending mode⟩
    | command line => rwa [mode] at fits

theorem Coherent.withoutKeys (coherent : engine.Coherent) :
    (engine.enter (engine.mode.withKeys .none)).Coherent :=
  coherent.withKeys PendingKeys.counted_none fun _ _ _ =>
    PendingKeys.onlyMotions_none

theorem Coherent.readNormalKey (coherent : engine.Coherent) {keys : PendingKeys}
    (normal : engine.mode = .normal keys) (key : Key) :
    (engine.readKey keys Prefix.ofNormalKey? key
      (Engine.runNormalKey? · key)).2.Coherent := by
  have bare := coherent.withoutKeys
  have free :
      (engine.enter (engine.mode.withKeys .none)).mode = .normal .none := by
    simp [Engine.enter, normal, Mode.withKeys]
  have fits := coherent.mode
  rw [normal] at fits
  refine readKey_cases ?_ ?_ ?_ bare
  · intro count held read
    refine coherent.withKeys (PendingKeys.Counted.takenIn fits read _) ?_
    intro _ _ visual
    rw [normal] at visual
    contradiction
  · intro command count _
    exact bare.runKeyCommand free command count
  · intro count next run
    exact bare.runNormalKey? free run

theorem Coherent.readVisualKey (coherent : engine.Coherent)
    {selection : Selection} {keys : PendingKeys}
    (visual : engine.mode = .visual selection keys) (key : Key) :
    (engine.readKey keys Prefix.ofVisualKey? key
      (Engine.runVisualKey? · selection key)).2.Coherent := by
  have bare := coherent.withoutKeys
  have free :
      (engine.enter (engine.mode.withKeys .none)).mode =
        .visual selection .none := by
    simp [Engine.enter, visual, Mode.withKeys]
  have fits := coherent.mode
  rw [visual] at fits
  obtain ⟨_, counted, motions⟩ := fits
  refine readKey_cases ?_ ?_ ?_ bare
  · intro count held read
    refine coherent.withKeys (counted.takenIn read _) fun _ _ _ => ?_
    exact motions.takenIn read _ _
  · intro command count read
    rcases runKeyCommand_of_onlyMotions motions read _ with same | ⟨p, moved⟩
    · rw [same]
      exact bare
    · rw [moved]
      exact bare.moveTo p
  · intro count next run
    exact bare.runVisualKey? free run

theorem Coherent.dispatch (coherent : engine.Coherent) (event : KeyEvent) :
    (engine.dispatch event).2.Coherent := by
  unfold Engine.dispatch
  split
  · split
    · exact coherent.say _
    · exact coherent
  · split
    · exact coherent.readNormalKey ‹_› event.key
    · exact coherent.readVisualKey ‹_› event.key
    · split
      · exact coherent.runInsertKey? ‹_› ‹_›
      · exact coherent
    · split
      · exact coherent.runCommandKey? ‹_› ‹_›
      · exact coherent

/-! The operations of a host. -/

theorem coherent_fresh (settings : Settings) : (fresh settings).Coherent :=
  Ready.coherent ⟨Buffer.ofLines_ne_nil [], rfl⟩
    (Buffer.allows_origin (Buffer.ofLines_ne_nil []) _)

theorem coherent_ofContent (content : Text) : (ofContent content).Coherent :=
  Ready.coherent ⟨Buffer.ofLines_ne_nil _, rfl⟩
    (Buffer.allows_origin (Buffer.ofLines_ne_nil _) _)

theorem Coherent.counted (coherent : engine.Coherent) {keys : PendingKeys}
    (held : engine.mode.keys? = some keys) : keys.Counted := by
  have fits := coherent.mode
  cases mode : engine.mode with
  | normal pending =>
      rw [mode] at fits held
      cases held
      exact fits
  | visual selection pending =>
      rw [mode] at fits held
      cases held
      exact fits.2.1
  | insert =>
      rw [mode] at held
      contradiction
  | command line =>
      rw [mode] at held
      contradiction

theorem Coherent.expire (coherent : engine.Coherent) :
    engine.expire.Coherent := by
  unfold Engine.expire
  split
  · rename_i keys held
    split
    · exact coherent.withKeys (coherent.counted held).dropPrefix fun _ _ _ =>
        keys.onlyMotions_dropPrefix
    · exact coherent
  · exact coherent

theorem Coherent.press (coherent : engine.Coherent) (event : KeyEvent) :
    (engine.press event).engine.Coherent :=
  coherent.expire.dispatch event

theorem Coherent.tick (coherent : engine.Coherent) (now : Duration) :
    (engine.tick now).engine.Coherent := by
  refine Coherent.expire ?_
  exact ⟨coherent.lines_ne_nil, coherent.cursor, coherent.mode⟩

theorem coherent_loadLines (lines : List Line) :
    (engine.loadLines lines).engine.Coherent :=
  Ready.coherent ⟨Buffer.ofLines_ne_nil lines, rfl⟩
    (Buffer.allows_origin (Buffer.ofLines_ne_nil lines) _)

theorem Reachable.coherent (reachable : Reachable engine) :
    engine.Coherent := by
  refine reachable.invariant coherent_fresh coherent_ofContent ?_ ?_ ?_ ?_
  · intro _ event coherent
    exact coherent.press event
  · intro _ now coherent
    exact coherent.tick now
  · intro _ lines _
    exact coherent_loadLines lines
  · intro _ p coherent
    exact coherent.moveTo p

/--
However a host uses an editor, the cursor is on a character, or where one can be
inserted.
-/
theorem Reachable.cursor_in_bounds (reachable : Reachable engine) :
    1 ≤ engine.buffer.lineCount ∧ engine.cursor.line < engine.buffer.lineCount ∧
      (engine.mode.kind = .insert →
        engine.cursor.col ≤ engine.buffer.lineLength engine.cursor.line) ∧
      (engine.mode.kind ≠ .insert →
        engine.cursor.col ≤
          engine.buffer.lineLength engine.cursor.line - 1) := by
  obtain ⟨nonempty, ⟨within, inside⟩, _⟩ := reachable.coherent
  refine ⟨Buffer.lineCount_pos nonempty, within, ?_, ?_⟩
  · intro insert
    simpa [Buffer.maxCol, insert] using inside
  · intro outside
    simpa [Buffer.maxCol, outside] using inside

/--
Behind the last line after its deletion, and then in insert mode behind the line
before it.
-/
theorem cursor_in_bounds_after_delete_last :
    let engine := (ofContent "ab\ncde").run
      [.setCursor ⟨7, 7⟩, .pressKey (.char 'd'), .pressKey (.char 'd'),
        .pressKey (.char 'A')]
    Reachable engine ∧ engine.mode.kind = .insert ∧ engine.cursor = ⟨0, 2⟩ ∧
      1 ≤ engine.buffer.lineCount ∧
      engine.cursor.line < engine.buffer.lineCount ∧
      (engine.mode.kind = .insert →
        engine.cursor.col ≤ engine.buffer.lineLength engine.cursor.line) ∧
      (engine.mode.kind ≠ .insert →
        engine.cursor.col ≤
          engine.buffer.lineLength engine.cursor.line - 1) := by
  have reachable := (Reachable.ofContent "ab\ncde").run
    [.setCursor ⟨7, 7⟩, .pressKey (.char 'd'), .pressKey (.char 'd'),
      .pressKey (.char 'A')]
  exact ⟨reachable, by decide +kernel, by decide +kernel,
    reachable.cursor_in_bounds⟩

end ModalEditing.Engine
