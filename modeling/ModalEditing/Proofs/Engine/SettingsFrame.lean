import ModalEditing.Proofs.Engine.CursorBounds

namespace ModalEditing.Engine

variable {engine : Engine}

/-!
No key changes the settings: one lemma for each command, and with them one for a
key.
-/

theorem CutsHere.settings_eq {next : Engine} (cuts : CutsHere engine next) :
    next.settings = engine.settings := by
  cases cuts <;> rfl

@[simp] theorem settings_enter (engine : Engine) (mode : Mode) :
    (engine.enter mode).settings = engine.settings := rfl

@[simp] theorem settings_say (engine : Engine) (notice : Notice) :
    (engine.say notice).settings = engine.settings := rfl

@[simp] theorem settings_atColumn (engine : Engine) (col : Nat) :
    (engine.atColumn col).settings = engine.settings := rfl

@[simp] theorem settings_clampCursor (engine : Engine) :
    engine.clampCursor.settings = engine.settings := rfl

@[simp] theorem settings_moveTo (engine : Engine) (p : Position) :
    (engine.moveTo p).settings = engine.settings := rfl

@[simp] theorem settings_openLine (engine : Engine) (line : Nat) :
    (engine.openLine line).settings = engine.settings := rfl

@[simp] theorem settings_deleteForward (engine : Engine) (count : Nat) :
    (engine.deleteForward count).settings = engine.settings :=
  (cutsHere_deleteForward count).settings_eq

@[simp] theorem settings_deleteToLineEnd (engine : Engine) :
    engine.deleteToLineEnd.settings = engine.settings :=
  cutsHere_deleteToLineEnd.settings_eq

@[simp] theorem settings_deleteWord (engine : Engine) (count : Nat) :
    (engine.deleteWord count).settings = engine.settings :=
  (cutsHere_deleteWord count).settings_eq

@[simp] theorem settings_changeWord (engine : Engine) (count : Nat) :
    (engine.changeWord count).settings = engine.settings :=
  (cutsHere_changeWord count).settings_eq

@[simp] theorem settings_deleteBackward (engine : Engine) (count : Nat) :
    (engine.deleteBackward count).settings = engine.settings := by
  unfold deleteBackward
  dsimp only
  split <;> rfl

@[simp] theorem settings_deleteLines (engine : Engine) (line count : Nat) :
    (engine.deleteLines line count).settings = engine.settings := by
  unfold deleteLines
  dsimp only
  split <;> rfl

@[simp] theorem settings_changeLines (engine : Engine) (line count : Nat) :
    (engine.changeLines line count).settings = engine.settings := by
  unfold changeLines
  dsimp only
  split <;> rfl

theorem settings_deleteInside? {quote : Char} {next : Engine}
    (deleted : engine.deleteInside? quote = some next) :
    next.settings = engine.settings := by
  obtain ⟨_, _, _, rfl⟩ := deleteInside?_eq_some deleted
  rfl

@[simp] theorem settings_moveToColumn (engine : Engine) (col : Option Nat) :
    (engine.moveToColumn col).settings = engine.settings := by
  cases col <;> rfl

@[simp] theorem settings_joinLines (engine : Engine) (count : Nat) :
    (engine.joinLines count).settings = engine.settings :=
  settings_moveToColumn _ _

@[simp] theorem settings_paste (engine : Engine) (behind : Bool) (count : Nat) :
    (engine.paste behind count).settings = engine.settings := by
  unfold paste
  dsimp only
  split <;> rfl

@[simp] theorem settings_replaceChar (engine : Engine) (c : Char) :
    (engine.replaceChar c).settings = engine.settings := by
  unfold replaceChar
  split <;> rfl

@[simp] theorem settings_repeatSearch (engine : Engine) (direction : Direction)
    (count : Nat) :
    (engine.repeatSearch direction count).settings = engine.settings := by
  rcases engine.repeatSearch_eq direction count with ⟨p, moved⟩ | ⟨notice, said⟩
  · rw [moved]
    rfl
  · rw [said]
    rfl

@[simp] theorem settings_searchWord (engine : Engine) :
    engine.searchWord.settings = engine.settings := by
  unfold searchWord
  split
  · exact settings_repeatSearch _ _ _
  · rfl

@[simp] theorem settings_execute (engine : Engine) (command : ExCommand) :
    (engine.execute command).settings = engine.settings := by
  cases command with
  | substitute substitution =>
      simp only [execute, substitute]
      split <;> rfl
  | _ => rfl

@[simp] theorem settings_runCommandLine (engine : Engine) (line : Text) :
    (engine.runCommandLine line).settings = engine.settings := by
  unfold runCommandLine
  split
  · split
    · exact settings_execute _ _
    · rfl
  · refine (settings_repeatSearch _ _ _).trans ?_
    split <;> rfl
  · rfl

@[simp] theorem settings_deleteSelection (engine : Engine)
    (selection : Selection) :
    (engine.deleteSelection selection).settings = engine.settings := by
  unfold deleteSelection
  dsimp only
  split
  · rfl
  · exact settings_deleteLines _ _ _

@[simp] theorem settings_yankSelection (engine : Engine)
    (selection : Selection) :
    (engine.yankSelection selection).settings = engine.settings := by
  unfold yankSelection
  dsimp only
  split <;> rfl

@[simp] theorem settings_changeSelection (engine : Engine)
    (selection : Selection) :
    (engine.changeSelection selection).settings = engine.settings := by
  unfold changeSelection
  split
  · rfl
  · exact settings_changeLines _ _ _

@[simp] theorem settings_runKeyCommand (engine : Engine) (command : KeyCommand)
    (count : Nat) :
    (engine.runKeyCommand command count).settings = engine.settings := by
  cases command with
  | deleteInner quote =>
      cases deleted : engine.deleteInside? quote with
      | none => simp [runKeyCommand, deleted]
      | some next =>
          simp [runKeyCommand, deleted, settings_deleteInside? deleted]
  | changeInner quote =>
      cases deleted : engine.deleteInside? quote with
      | none => simp [runKeyCommand, deleted]
      | some next =>
          simp [runKeyCommand, deleted, settings_deleteInside? deleted]
  | yankLines => rfl
  | _ => simp [runKeyCommand]

theorem settings_runNormalAction? {key : Key} {count : Nat} {next : Engine}
    (run : engine.runNormalAction? key count = some next) :
    next.settings = engine.settings := by
  unfold runNormalAction? at run
  dsimp only at run
  split at run <;> cases run <;> simp

theorem settings_runNormalKey? {key : Key} {count : Nat} {next : Engine}
    (run : engine.runNormalKey? key count = some next) :
    next.settings = engine.settings := by
  unfold runNormalKey? at run
  split at run
  · cases run
    rfl
  · exact settings_runNormalAction? run

theorem settings_runVisualKey? {selection : Selection} {key : Key} {count : Nat}
    {next : Engine}
    (run : engine.runVisualKey? selection key count = some next) :
    next.settings = engine.settings := by
  unfold runVisualKey? at run
  split at run
  · cases run
    rfl
  · unfold runVisualAction? at run
    split at run <;> cases run
    all_goals simp [swapSelection]

theorem settings_runInsertKey? {key : Key} {next : Engine}
    (run : engine.runInsertKey? key = some next) :
    next.settings = engine.settings := by
  unfold runInsertKey? at run
  cases key with
  | unidentified => contradiction
  | escape | delete | tab =>
      cases run
      rfl
  | enter | backspace | char =>
      cases run
      split <;> rfl
  | left | right | up | down | home | toEnd =>
      cases run
      cases engine.target? _ 1 <;> rfl

theorem settings_runCommandKey? {line : Text} {key : Key} {next : Engine}
    (run : engine.runCommandKey? line key = some next) :
    next.settings = engine.settings := by
  unfold runCommandKey? at run
  split at run <;> cases run <;> simp

theorem settings_readKey (engine : Engine) {keys : PendingKeys}
    {starts : Char → Option Prefix} {key : Key}
    {run : Engine → Nat → Option Engine}
    (frame : ∀ bare count next, run bare count = some next →
      next.settings = bare.settings) :
    (engine.readKey keys starts key run).2.settings = engine.settings := by
  refine readKey_cases (P := fun next =>
    next.settings = engine.settings) ?_ ?_ ?_ rfl
  · intro count held _
    rfl
  · intro command count _
    exact settings_runKeyCommand _ command count
  · intro count next ran
    have same := frame _ count next ran
    exact same

theorem settings_dispatch (engine : Engine) (event : KeyEvent) :
    (engine.dispatch event).2.settings = engine.settings := by
  unfold dispatch
  split
  · split <;> rfl
  · split
    · exact engine.settings_readKey fun _ _ _ => settings_runNormalKey?
    · exact engine.settings_readKey fun _ _ _ => settings_runVisualKey?
    · split
      · exact settings_runInsertKey? ‹_›
      · rfl
    · split
      · exact settings_runCommandKey? ‹_›
      · rfl

@[simp] theorem settings_expire (engine : Engine) :
    engine.expire.settings = engine.settings := by
  obtain ⟨keys, expired⟩ := engine.exists_expire_eq
  rw [expired, settings_enter]

theorem settings_press (engine : Engine) (event : KeyEvent) :
    (engine.press event).engine.settings = engine.settings :=
  (settings_dispatch _ event).trans engine.settings_expire

end ModalEditing.Engine
