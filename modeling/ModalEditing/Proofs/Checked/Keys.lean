import ModalEditing.Engine.Keys
import ModalEditing.Proofs.Checked.CommandLine
import ModalEditing.Proofs.Engine.CursorBounds

namespace ModalEditing

open Checked

namespace Selection

theorem first_line_le_last_line (selection : Selection) :
    selection.first.line ≤ selection.last.line := by
  have ordered := selection.first_le_last
  rw [Position.le_def] at ordered
  omega

theorem Fits.last_col_le {selection : Selection} {buffer : Buffer}
    {cursor : Position} (fits : selection.Fits buffer cursor)
    (sized : buffer.Sized) : selection.last.col ≤ maxLength :=
  Nat.le_trans ((Buffer.hasGap_iff _ _).mp fits.last.hasGap).2
    (sized.lineLength _)

end Selection

namespace Engine

/-! Visual mode, with the partial operations that its commands are made of. -/

def trySelectedLines (selection : Selection) : Checked Nat := do
  add (← sub selection.last.line selection.first.line) 1

def tryCutSelection (engine : Engine)
    (selection : Selection) : Checked Engine := do
  let (buffer, text) ← engine.buffer.tryDeleteSpan selection.first
    selection.last
  return { engine with buffer := buffer }.store text

def tryDeleteSelection (engine : Engine)
    (selection : Selection) : Checked Engine := do
  let engine := engine.enter (.normal .none)
  match selection.kind with
  | .chars => (← engine.tryCutSelection selection).tryMoveTo selection.first
  | .lines =>
      engine.tryDeleteLines selection.first.line (← trySelectedLines selection)

def tryYankSelection (engine : Engine)
    (selection : Selection) : Checked Engine := do
  let engine := engine.enter (.normal .none)
  match selection.kind with
  | .chars =>
      let text ← engine.buffer.trySpanText selection.first selection.last
      (engine.store text).tryMoveTo selection.first
  | .lines =>
      let yanked ← engine.tryYankLines selection.first.line
        (← trySelectedLines selection)
      yanked.tryMoveTo selection.first

def tryChangeSelection (engine : Engine)
    (selection : Selection) : Checked Engine := do
  match selection.kind with
  | .chars =>
      ((← engine.tryCutSelection selection).enter .insert).tryMoveTo
        selection.first
  | .lines =>
      engine.tryChangeLines selection.first.line (← trySelectedLines selection)

/-! Keys, with the partial operations of what they run. -/

def tryRunKeyCommand (engine : Engine) (command : KeyCommand)
    (count : Nat) : Checked Engine := do
  let ⟨line, col⟩ := engine.cursor
  match command with
  | .deleteLines => engine.tryDeleteLines line count
  | .yankLines => engine.tryYankLines line count
  | .changeLines => engine.tryChangeLines line count
  | .deleteWord => (← engine.tryDeleteWord count).tryClampCursor
  | .changeWord => return (← engine.tryChangeWord count).enter .insert
  | .goToFirstLine => engine.tryMoveTo .origin
  | .deleteInner quote =>
      match ← engine.tryDeleteInside? quote with
      | some next => next.tryClampCursor
      | none => return engine
  | .changeInner quote =>
      match ← engine.tryDeleteInside? quote with
      | some next => return next.enter .insert
      | none => return engine
  | .replace c => engine.tryReplaceChar c
  | .findForward c =>
      engine.tryMoveToColumn (← engine.currentLine.tryFindForward? col c count)
  | .findBackward c =>
      engine.tryMoveToColumn (engine.currentLine.findBackward? col c count)

def tryColumnBehind (engine : Engine) : Checked Nat :=
  let col := engine.cursor.col
  if 0 < engine.currentLine.length then add col 1 else pure col

def tryRunNormalAction? (engine : Engine) (key : Key) (count : Nat) :
    Checked (Option Engine) := do
  let line := engine.cursor.line
  match key with
  | .char 'a' =>
      return some ((engine.atColumn (← engine.tryColumnBehind)).enter .insert)
  | .char 'o' => some <$> engine.tryOpenLine (← add line 1)
  | .char 'O' => some <$> engine.tryOpenLine line
  | .char 's' => return some ((← engine.tryDeleteForward count).enter .insert)
  | .char 'S' => some <$> engine.tryChangeLines line count
  | .char 'C' => return some ((← engine.tryDeleteToLineEnd).enter .insert)
  | .char 'x' | .delete =>
      some <$> (← engine.tryDeleteForward count).tryClampCursor
  | .char 'X' => some <$> engine.tryDeleteBackward count
  | .char 'D' => some <$> (← engine.tryDeleteToLineEnd).tryClampCursor
  | .char 'p' => some <$> engine.tryPaste true count
  | .char 'P' => some <$> engine.tryPaste false count
  | .char 'J' => some <$> engine.tryJoinLines count
  | .char 'n' => some <$> engine.tryRepeatSearch .forward count
  | .char 'N' => some <$> engine.tryRepeatSearch .backward count
  | .char '*' => some <$> engine.trySearchWord
  | key => return engine.runNormalAction? key count

def tryRunNormalKey? (engine : Engine) (key : Key) (count : Nat) :
    Checked (Option Engine) := do
  match ← engine.tryTarget? key count with
  | some target => some <$> engine.tryMoveTo target
  | none => engine.tryRunNormalAction? key count

def tryRunVisualAction? (engine : Engine) (selection : Selection) (key : Key) :
    Checked (Option Engine) :=
  match key with
  | .escape => some <$> (engine.enter (.normal .none)).tryClampCursor
  | .char 'd' | .char 'x' | .delete =>
      some <$> engine.tryDeleteSelection selection
  | .char 'y' => some <$> engine.tryYankSelection selection
  | .char 'c' => some <$> engine.tryChangeSelection selection
  | key => pure (engine.runVisualAction? selection key)

def tryRunVisualKey? (engine : Engine) (selection : Selection) (key : Key)
    (count : Nat) : Checked (Option Engine) := do
  match ← engine.tryTarget? key count with
  | some target => some <$> engine.tryMoveTo target
  | none => engine.tryRunVisualAction? selection key

def tryReadKey (engine : Engine) (keys : PendingKeys)
    (starts : Char → Option Prefix) (key : Key)
    (run : Engine → Nat → Checked (Option Engine)) :
    Checked (Bool × Engine) := do
  let bare := engine.enter (engine.mode.withKeys .none)
  match keys.read starts key with
  | .takenIn count held => return (true, engine.hold count held)
  | .command command count =>
      return (true, ← bare.tryRunKeyCommand command count)
  | .single count =>
      match ← run bare count with
      | some next => return (true, next)
      | none => return (false, bare)

def tryRunInsertKey? (engine : Engine) (key : Key) :
    Checked (Option Engine) := do
  let cursor := engine.cursor
  match key with
  | .escape =>
      some <$>
        ((engine.atColumn (cursor.col - 1)).enter
          (.normal .none)).tryClampCursor
  | .enter =>
      match ← engine.buffer.tryBreakLine? cursor with
      | some buffer =>
          return some { engine with
            buffer := buffer
            cursor := ⟨← add cursor.line 1, 0⟩ }
      | none => return some engine
  | .backspace =>
      match ← engine.buffer.tryDeleteBefore? cursor with
      | some (buffer, p) =>
          return some { engine with buffer := buffer, cursor := p }
      | none => return some engine
  | .delete =>
      let next ← engine.buffer.tryDeleteChar? cursor
      return some { engine with buffer := next.getD engine.buffer }
  | .tab =>
      reserve engine.settings.tabWidth 1
      let (buffer, p) ←
        engine.buffer.tryInsertText cursor
          (List.replicate engine.settings.tabWidth ' ')
      return some { engine with buffer := buffer, cursor := p }
  | .char c =>
      match engine.buffer.insertChar? cursor c with
      | some buffer =>
          return some ({ engine with buffer := buffer }.atColumn
            (← add cursor.col 1))
      | none => return some engine
  | .unidentified => return none
  | key =>
      match ← engine.tryTarget? key 1 with
      | some target => some <$> engine.tryMoveTo target
      | none => return some engine

def tryRunCommandKey? (engine : Engine) (line : Text) (key : Key) :
    Checked (Option Engine) := do
  match key with
  | .enter =>
      some <$>
        (← (engine.enter (.normal .none)).tryRunCommandLine line).tryClampCursor
  | key => return engine.runCommandKey? line key

def tryDispatch (engine : Engine) (event : KeyEvent) :
    Checked (Bool × Engine) := do
  if event.modifiers.hasCommand then return engine.dispatch event
  else
    match engine.mode with
    | .normal keys =>
        engine.tryReadKey keys Prefix.ofNormalKey? event.key
          (tryRunNormalKey? · event.key)
    | .visual selection keys =>
        engine.tryReadKey keys Prefix.ofVisualKey? event.key
          (tryRunVisualKey? · selection event.key)
    | .insert =>
        match ← engine.tryRunInsertKey? event.key with
        | some next => return (true, next)
        | none => return (false, engine)
    | .command line =>
        match ← engine.tryRunCommandKey? line event.key with
        | some next => return (true, next)
        | none => return (false, engine)

variable {engine : Engine}

theorem CutsHere.lines_ne_nil {next : Engine} (cuts : CutsHere engine next)
    (nonempty : engine.buffer.lines ≠ []) : next.buffer.lines ≠ [] := by
  cases cuts with
  | nothing => exact nonempty
  | columns _ stop => exact Buffer.lines_editLine_ne_nil nonempty _ _

theorem Coherent.col_le (coherent : engine.Coherent) (sized : engine.Sized) :
    engine.cursor.col ≤ maxLength :=
  Nat.le_trans ((Buffer.hasGap_iff _ _).mp coherent.hasGap).2
    (sized.buffer.lineLength engine.cursor.line)

/-! Selections. -/

section

variable {selection : Selection} {cursor : Position}

theorem trySelectedLines_eq (sized : engine.buffer.Sized)
    (fits : selection.Fits engine.buffer cursor) :
    trySelectedLines selection = pure (selectedLines selection) := by
  have below := sized.below_fits (Nat.le_of_lt fits.last.1)
  unfold trySelectedLines
  rw [sub_eq selection.first_line_le_last_line, pure_bind]
  exact add_eq (by omega)

theorem tryCutSelection_eq (sized : engine.buffer.Sized)
    (fits : selection.Fits engine.buffer cursor) :
    engine.tryCutSelection selection =
      pure (engine.cutSelection selection) := by
  unfold tryCutSelection
  rw [Buffer.tryDeleteSpan_eq sized selection.first_le_last fits.last.1
    (fits.last_col_le sized)]
  rfl

theorem tryDeleteSelection_eq (nonempty : engine.buffer.lines ≠ [])
    (sized : engine.buffer.Sized) (fits : selection.Fits engine.buffer cursor) :
    engine.tryDeleteSelection selection =
      pure (engine.deleteSelection selection) := by
  change (engine.enter (.normal .none)).buffer.lines ≠ [] at nonempty
  change (engine.enter (.normal .none)).buffer.Sized at sized
  change selection.Fits (engine.enter (.normal .none)).buffer cursor at fits
  unfold tryDeleteSelection deleteSelection
  dsimp only
  cases selection.kind with
  | chars =>
      dsimp only
      rw [tryCutSelection_eq sized fits, pure_bind]
      exact tryMoveTo_eq (Buffer.lines_deleteSpan_ne_nil nonempty _ _) _
  | lines =>
      dsimp only
      rw [trySelectedLines_eq sized fits, pure_bind]
      exact tryDeleteLines_eq nonempty sized _ _

theorem tryYankSelection_eq (nonempty : engine.buffer.lines ≠ [])
    (sized : engine.buffer.Sized) (fits : selection.Fits engine.buffer cursor) :
    engine.tryYankSelection selection =
      pure (engine.yankSelection selection) := by
  change (engine.enter (.normal .none)).buffer.lines ≠ [] at nonempty
  change (engine.enter (.normal .none)).buffer.Sized at sized
  change selection.Fits (engine.enter (.normal .none)).buffer cursor at fits
  unfold tryYankSelection yankSelection
  dsimp only
  cases selection.kind with
  | chars =>
      dsimp only
      rw [Buffer.trySpanText_eq sized selection.first_le_last fits.last.1
        (fits.last_col_le sized), pure_bind]
      apply tryMoveTo_eq
      exact nonempty
  | lines =>
      dsimp only
      rw [trySelectedLines_eq sized fits, pure_bind,
        tryYankLines_eq sized (Nat.le_of_lt fits.first.1), pure_bind]
      apply tryMoveTo_eq
      exact nonempty

theorem tryChangeSelection_eq (nonempty : engine.buffer.lines ≠ [])
    (sized : engine.buffer.Sized) (fits : selection.Fits engine.buffer cursor) :
    engine.tryChangeSelection selection =
      pure (engine.changeSelection selection) := by
  have remains :
      ((engine.cutSelection selection).enter .insert).buffer.lines ≠ [] :=
    Buffer.lines_deleteSpan_ne_nil nonempty _ _
  unfold tryChangeSelection changeSelection
  cases selection.kind with
  | chars =>
      dsimp only
      rw [tryCutSelection_eq sized fits, pure_bind]
      exact tryMoveTo_eq remains _
  | lines =>
      dsimp only
      rw [trySelectedLines_eq sized fits, pure_bind]
      exact tryChangeLines_eq nonempty sized _ _

end

/-! Keys. -/

theorem tryRunKeyCommand_eq (coherent : engine.Coherent) (sized : engine.Sized)
    (command : KeyCommand) (count : Nat) :
    engine.tryRunKeyCommand command count =
      pure (engine.runKeyCommand command count) := by
  have nonempty := coherent.lines_ne_nil
  have within := coherent.cursor.1
  unfold tryRunKeyCommand runKeyCommand
  dsimp only
  cases command with
  | deleteLines => exact tryDeleteLines_eq nonempty sized.buffer _ _
  | yankLines => exact tryYankLines_eq sized.buffer (Nat.le_of_lt within) _
  | changeLines => exact tryChangeLines_eq nonempty sized.buffer _ _
  | deleteWord =>
      dsimp only
      rw [tryDeleteWord_eq nonempty sized.buffer, pure_bind]
      exact tryClampCursor_eq
        ((cutsHere_deleteWord count).lines_ne_nil nonempty)
  | changeWord =>
      dsimp only
      rw [tryChangeWord_eq nonempty sized.buffer within]
      rfl
  | goToFirstLine => exact tryMoveTo_eq nonempty _
  | deleteInner quote =>
      dsimp only
      rw [tryDeleteInside?_eq sized.buffer, pure_bind]
      cases deleted : engine.deleteInside? quote with
      | none => rfl
      | some next =>
          obtain ⟨opening, closing, _, rfl⟩ := deleteInside?_eq_some deleted
          exact tryClampCursor_eq (Buffer.lines_editLine_ne_nil nonempty _ _)
  | changeInner quote =>
      dsimp only
      rw [tryDeleteInside?_eq sized.buffer, pure_bind]
      cases engine.deleteInside? quote <;> rfl
  | replace c => exact tryReplaceChar_eq c
  | findForward c =>
      dsimp only
      rw [Line.tryFindForward?_eq (coherent.col_le sized), pure_bind]
      exact tryMoveToColumn_eq nonempty _
  | findBackward c => exact tryMoveToColumn_eq nonempty _

theorem tryColumnBehind_eq (short : engine.cursor.col ≤ maxLength) :
    engine.tryColumnBehind =
      pure (if 0 < engine.currentLine.length then engine.cursor.col + 1
        else engine.cursor.col) := by
  unfold tryColumnBehind
  dsimp only
  rw [add_eq (behind_fits short)]
  split <;> rfl

theorem tryRunNormalAction?_eq (coherent : engine.Coherent)
    (sized : engine.Sized) (key : Key) {count : Nat}
    (counted : count ≤ maxCount) :
    engine.tryRunNormalAction? key count =
      pure (engine.runNormalAction? key count) := by
  have nonempty := coherent.lines_ne_nil
  have within := coherent.cursor.1
  have short := coherent.col_le sized
  have clamped :=
    tryClampCursor_eq ((cutsHere_deleteForward count).lines_ne_nil nonempty)
  unfold tryRunNormalAction?
  dsimp only
  -- One case for each key, in the order of the definition.
  split
  · rw [tryColumnBehind_eq short]
    rfl
  · rw [add_eq (sized.buffer.below_fits (Nat.le_of_lt within)), pure_bind,
      tryOpenLine_eq]
    rfl
  · rw [tryOpenLine_eq]
    rfl
  · rw [tryDeleteForward_eq sized.buffer]
    rfl
  · rw [tryChangeLines_eq nonempty sized.buffer]
    rfl
  · rw [tryDeleteToLineEnd_eq]
    rfl
  · rw [tryDeleteForward_eq sized.buffer, pure_bind, clamped]
    rfl
  · rw [tryDeleteForward_eq sized.buffer, pure_bind, clamped]
    rfl
  · rw [tryDeleteBackward_eq nonempty]
    rfl
  · rw [tryDeleteToLineEnd_eq, pure_bind,
      tryClampCursor_eq (cutsHere_deleteToLineEnd.lines_ne_nil nonempty)]
    rfl
  · rw [tryPaste_eq nonempty sized coherent.hasGap true counted]
    rfl
  · rw [tryPaste_eq nonempty sized coherent.hasGap false counted]
    rfl
  · rw [tryJoinLines_eq nonempty sized.buffer within]
    rfl
  · rw [tryRepeatSearch_eq nonempty sized.buffer short]
    rfl
  · rw [tryRepeatSearch_eq nonempty sized.buffer short]
    rfl
  · rw [trySearchWord_eq nonempty sized.buffer short]
    rfl
  · rfl

theorem tryRunNormalKey?_eq (coherent : engine.Coherent) (sized : engine.Sized)
    (key : Key) {count : Nat} (counted : count ≤ maxCount) :
    engine.tryRunNormalKey? key count =
      pure (engine.runNormalKey? key count) := by
  have nonempty := coherent.lines_ne_nil
  unfold tryRunNormalKey? runNormalKey?
  rw [tryTarget?_eq nonempty sized.buffer (coherent.col_le sized) key counted,
    pure_bind]
  cases engine.target? key count with
  | none => exact tryRunNormalAction?_eq coherent sized key counted
  | some target =>
      dsimp only
      rw [tryMoveTo_eq nonempty]
      rfl

theorem tryRunVisualAction?_eq (nonempty : engine.buffer.lines ≠ [])
    (sized : engine.buffer.Sized) {selection : Selection}
    (fits : selection.Fits engine.buffer engine.cursor) (key : Key) :
    engine.tryRunVisualAction? selection key =
      pure (engine.runVisualAction? selection key) := by
  have deleted := tryDeleteSelection_eq nonempty sized fits
  unfold tryRunVisualAction?
  split
  · rw [tryClampCursor_eq (by exact nonempty)]
    rfl
  · rw [deleted]
    rfl
  · rw [deleted]
    rfl
  · rw [deleted]
    rfl
  · rw [tryYankSelection_eq nonempty sized fits]
    rfl
  · rw [tryChangeSelection_eq nonempty sized fits]
    rfl
  · rfl

theorem tryRunVisualKey?_eq (coherent : engine.Coherent) (sized : engine.Sized)
    {selection : Selection} (fits : selection.Fits engine.buffer engine.cursor)
    (key : Key) {count : Nat} (counted : count ≤ maxCount) :
    engine.tryRunVisualKey? selection key count =
      pure (engine.runVisualKey? selection key count) := by
  have nonempty := coherent.lines_ne_nil
  unfold tryRunVisualKey? runVisualKey?
  rw [tryTarget?_eq nonempty sized.buffer (coherent.col_le sized) key counted,
    pure_bind]
  cases engine.target? key count with
  | none => exact tryRunVisualAction?_eq nonempty sized.buffer fits key
  | some target =>
      dsimp only
      rw [tryMoveTo_eq nonempty]
      rfl

theorem tryReadKey_eq {keys : PendingKeys} (counted : keys.Counted)
    (starts : Char → Option Prefix) (key : Key)
    {tryRun : Engine → Nat → Checked (Option Engine)}
    {run : Engine → Nat → Option Engine} (coherent : engine.Coherent)
    (sized : engine.Sized)
    (safe : ∀ count ≤ maxCount,
      tryRun (engine.enter (engine.mode.withKeys .none)) count =
        pure (run (engine.enter (engine.mode.withKeys .none)) count)) :
    engine.tryReadKey keys starts key tryRun =
      pure (engine.readKey keys starts key run) := by
  have bare : (engine.enter (engine.mode.withKeys .none)).Sized :=
    ⟨sized.buffer, sized.stored⟩
  unfold tryReadKey readKey
  dsimp only
  cases read : keys.read starts key with
  | takenIn count held => rfl
  | command command count =>
      dsimp only
      rw [tryRunKeyCommand_eq coherent.withoutKeys bare]
      rfl
  | single count =>
      dsimp only
      rw [safe count (counted.single_le read), pure_bind]
      cases run (engine.enter (engine.mode.withKeys .none)) count <;> rfl

theorem tryRunInsertKey?_eq (coherent : engine.Coherent) (sized : engine.Sized)
    (narrow : engine.settings.tabWidth ≤ 16) (key : Key) :
    engine.tryRunInsertKey? key = pure (engine.runInsertKey? key) := by
  have nonempty := coherent.lines_ne_nil
  have gap := coherent.hasGap
  have short := coherent.col_le sized
  unfold tryRunInsertKey? runInsertKey?
  dsimp only
  cases key with
  | escape =>
      dsimp only
      rw [tryClampCursor_eq (by exact nonempty)]
      rfl
  | enter =>
      dsimp only
      rw [Buffer.tryBreakLine?_eq sized.buffer.lineCount_le, pure_bind]
      cases engine.buffer.breakLine? engine.cursor with
      | none => rfl
      | some buffer =>
          dsimp only
          rw [add_eq (sized.buffer.below_fits (Nat.le_of_lt coherent.cursor.1)),
            pure_bind]
  | backspace =>
      dsimp only
      rw [Buffer.tryDeleteBefore?_eq gap, pure_bind]
      cases engine.buffer.deleteBefore? engine.cursor <;> rfl
  | delete =>
      dsimp only
      rw [Buffer.tryDeleteChar?_eq]
      rfl
  | tab =>
      have typed :
          (List.replicate engine.settings.tabWidth ' ').length ≤
            maxLength * maxCount := by
        rw [List.length_replicate]
        exact Nat.le_trans narrow (by decide)
      have room : engine.settings.tabWidth * 1 ≤ maxBytes := by
        rw [Nat.mul_one]
        exact Nat.le_trans narrow (by decide)
      dsimp only
      rw [reserve_eq room, pure_bind,
        Buffer.tryInsertText_eq nonempty sized.buffer _ typed]
      rfl
  | char c =>
      dsimp only
      cases engine.buffer.insertChar? engine.cursor c with
      | none => rfl
      | some buffer =>
          dsimp only
          rw [add_eq (behind_fits short), pure_bind]
  | unidentified => rfl
  | left | right | up | down | home | toEnd =>
      dsimp only
      rw [tryTarget?_eq nonempty sized.buffer short _ (by decide), pure_bind]
      cases engine.target? _ 1 with
      | none => rfl
      | some target =>
          dsimp only
          rw [tryMoveTo_eq nonempty]
          rfl

theorem tryRunCommandKey?_eq (coherent : engine.Coherent) (sized : engine.Sized)
    {line : Text} (command : engine.mode = .command line) (key : Key) :
    engine.tryRunCommandKey? line key =
      pure (engine.runCommandKey? line key) := by
  have outside : engine.mode.kind ≠ .insert := by simp [command, Mode.kind]
  have normal := coherent.enterNormal outside
  have ran := (normal.ready rfl).runCommandLine line
  have entered : (engine.enter (.normal .none)).buffer.Sized := sized.buffer
  unfold tryRunCommandKey?
  split
  · rw [tryRunCommandLine_eq normal.lines_ne_nil entered normal.hasGap,
      pure_bind, tryClampCursor_eq ran.lines_ne_nil]
    rfl
  · rfl

theorem tryDispatch_eq (coherent : engine.Coherent) (sized : engine.Sized)
    (narrow : engine.settings.tabWidth ≤ 16) (event : KeyEvent) :
    engine.tryDispatch event = pure (engine.dispatch event) := by
  have fits := coherent.mode
  have bare : (engine.enter (engine.mode.withKeys .none)).Sized :=
    ⟨sized.buffer, sized.stored⟩
  unfold tryDispatch
  split
  · rfl
  · rename_i plain
    unfold dispatch
    rw [if_neg plain]
    cases mode : engine.mode with
    | normal keys =>
        rw [mode] at fits
        exact tryReadKey_eq fits _ _ coherent sized fun count counted =>
          tryRunNormalKey?_eq coherent.withoutKeys bare event.key counted
    | visual selection keys =>
        rw [mode] at fits
        obtain ⟨selected, pending, -⟩ := fits
        exact tryReadKey_eq pending _ _ coherent sized fun count counted =>
          tryRunVisualKey?_eq coherent.withoutKeys bare selected
            event.key counted
    | insert =>
        dsimp only
        rw [tryRunInsertKey?_eq coherent sized narrow, pure_bind]
        cases engine.runInsertKey? event.key <;> rfl
    | command line =>
        dsimp only
        rw [tryRunCommandKey?_eq coherent sized mode, pure_bind]
        cases engine.runCommandKey? line event.key <;> rfl

end Engine

end ModalEditing
