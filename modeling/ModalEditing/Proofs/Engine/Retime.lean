import ModalEditing.Engine.Operation
import ModalEditing.Proofs.PendingKeys

namespace ModalEditing

/--
The clock, how long a prefix waits, and until when the one waits that does.
-/
structure Timing where
  now : Duration
  waitMilliseconds : Nat
  deadline : Duration

/--
The deadline is the one there was, or that of a prefix that starts to wait now.
-/
def Timing.Due (timing : Timing) (deadline : Duration) : Prop :=
  deadline = timing.deadline ∨
    deadline = timing.now + .ofMilliseconds timing.waitMilliseconds

namespace PendingKeys

def due (keys : PendingKeys) (deadline : Duration) : PendingKeys :=
  { keys with
    waiting := keys.waiting.map fun waiting =>
      { waiting with deadline := deadline } }

@[simp] theorem display_due (keys : PendingKeys) (deadline : Duration) :
    (keys.due deadline).display = keys.display := by
  obtain ⟨count, waiting⟩ := keys
  cases waiting <;> rfl

@[simp] theorem read_due (keys : PendingKeys) (deadline : Duration)
    (starts : Char → Option Prefix) (key : Key) :
    (keys.due deadline).read starts key = keys.read starts key := by
  obtain ⟨count, waiting⟩ := keys
  cases waiting with
  | none => rfl
  | some waiting => cases key <;> rfl

end PendingKeys

namespace Mode

def due (deadline : Duration) : Mode → Mode
  | normal keys => normal (keys.due deadline)
  | insert => insert
  | visual selection keys => visual selection (keys.due deadline)
  | command line => command line

variable (mode : Mode) (deadline : Duration)

@[simp] theorem kind_due : (mode.due deadline).kind = mode.kind := by
  cases mode <;> rfl

@[simp] theorem selection?_due :
    (mode.due deadline).selection? = mode.selection? := by
  cases mode <;> rfl

theorem keys?_due :
    (mode.due deadline).keys? = mode.keys?.map (·.due deadline) := by
  cases mode <;> rfl

theorem due_eq_self {mode : Mode} {deadline : Duration}
    (same : ∀ keys ∈ mode.keys?, keys.due deadline = keys) :
    mode.due deadline = mode := by
  cases mode with
  | normal keys => exact congrArg normal (same keys rfl)
  | insert => rfl
  | visual selection keys => exact congrArg (visual selection) (same keys rfl)
  | command _ => rfl

@[simp] theorem commandArea_due :
    (mode.due deadline).commandArea = mode.commandArea := by
  cases mode with
  | normal keys => exact keys.display_due deadline
  | insert => rfl
  | visual selection keys => exact keys.display_due deadline
  | command line => rfl

@[simp] theorem withKeys_due (keys : PendingKeys) :
    (mode.due deadline).withKeys keys = mode.withKeys keys := by
  cases mode <;> rfl

theorem due_withKeys (keys : PendingKeys) :
    (mode.withKeys keys).due deadline = mode.withKeys (keys.due deadline) := by
  cases mode <;> rfl

@[simp] theorem follow_due (p : Position) :
    Engine.follow (mode.due deadline) p =
      (Engine.follow mode p).due deadline := by
  cases mode <;> rfl

end Mode

namespace Engine

/-!
An editor at another time. No command reads the clock or a deadline, so each of
them does the same at any time.
-/

def retime (engine : Engine) (timing : Timing) : Engine :=
  { engine with
    settings :=
      { engine.settings with waitMilliseconds := timing.waitMilliseconds }
    mode := engine.mode.due timing.deadline
    now := timing.now }

variable (engine : Engine) (timing : Timing)

@[simp] theorem buffer_retime : (engine.retime timing).buffer = engine.buffer :=
  rfl

@[simp] theorem cursor_retime : (engine.retime timing).cursor = engine.cursor :=
  rfl

@[simp] theorem registers_retime :
    (engine.retime timing).registers = engine.registers :=
  rfl

@[simp] theorem lastSearch_retime :
    (engine.retime timing).lastSearch = engine.lastSearch :=
  rfl

@[simp] theorem currentLine_retime :
    (engine.retime timing).currentLine = engine.currentLine :=
  rfl

@[simp] theorem snapshot_retime :
    (engine.retime timing).snapshot = engine.snapshot := by
  simp [snapshot, retime]

@[simp] theorem clampCursor_retime :
    (engine.retime timing).clampCursor = engine.clampCursor.retime timing := by
  simp [clampCursor, retime]

@[simp] theorem moveTo_retime (p : Position) :
    (engine.retime timing).moveTo p = (engine.moveTo p).retime timing := by
  simp [moveTo, retime]

@[simp] theorem moveToColumn_retime (col : Option Nat) :
    (engine.retime timing).moveToColumn col =
      (engine.moveToColumn col).retime timing := by
  cases col with
  | none => rfl
  | some col => exact engine.moveTo_retime timing ⟨engine.cursor.line, col⟩

theorem edited_moveTo_retime (buffer : Buffer) (p : Position) :
    { engine.retime timing with buffer := buffer }.moveTo p =
      ({ engine with buffer := buffer }.moveTo p).retime timing :=
  moveTo_retime { engine with buffer := buffer } timing p

theorem edited_moveToColumn_retime (buffer : Buffer) (col : Option Nat) :
    { engine.retime timing with buffer := buffer }.moveToColumn col =
      ({ engine with buffer := buffer }.moveToColumn col).retime timing :=
  moveToColumn_retime { engine with buffer := buffer } timing col

@[simp] theorem target?_retime (key : Key) (count : Nat) :
    (engine.retime timing).target? key count = engine.target? key count := rfl

theorem ite_retime (condition : Prop) [Decidable condition]
    (first second : Engine) :
    (if condition then first else second).retime timing =
      if condition then first.retime timing else second.retime timing :=
  apply_ite (·.retime timing) condition first second

/-! Edits. -/

@[simp] theorem store_retime (text : Text) :
    (engine.retime timing).store text = (engine.store text).retime timing := rfl

@[simp] theorem cut_retime (start stop : Nat) :
    (engine.retime timing).cut start stop =
      (engine.cut start stop).retime timing := rfl

@[simp] theorem atColumn_retime (col : Nat) :
    (engine.retime timing).atColumn col = (engine.atColumn col).retime timing :=
      rfl

@[simp] theorem deleteForward_retime (count : Nat) :
    (engine.retime timing).deleteForward count =
      (engine.deleteForward count).retime timing := by
  simp only [deleteForward, cursor_retime, currentLine_retime,
    cut_retime, ite_retime]
  rfl

@[simp] theorem deleteBackward_retime (count : Nat) :
    (engine.retime timing).deleteBackward count =
      (engine.deleteBackward count).retime timing := by
  simp only [deleteBackward, cursor_retime, cut_retime, atColumn_retime,
    clampCursor_retime, ite_retime]

@[simp] theorem deleteToLineEnd_retime :
    (engine.retime timing).deleteToLineEnd =
      engine.deleteToLineEnd.retime timing := by
  simp only [deleteToLineEnd, cursor_retime, currentLine_retime,
    cut_retime, ite_retime]
  rfl

@[simp] theorem deleteLines_retime (line count : Nat) :
    (engine.retime timing).deleteLines line count =
      (engine.deleteLines line count).retime timing := by
  simp only [deleteLines, buffer_retime, ite_retime]
  congr 1
  exact clampCursor_retime
    (storeLines { engine with buffer := _, cursor := _ } _) timing

@[simp] theorem yankLines_retime (line count : Nat) :
    (engine.retime timing).yankLines line count =
      (engine.yankLines line count).retime timing := rfl

@[simp] theorem changeLines_retime (line count : Nat) :
    (engine.retime timing).changeLines line count =
      (engine.changeLines line count).retime timing := by
  simp only [changeLines, buffer_retime, ite_retime]
  rfl

@[simp] theorem deleteWord_retime (count : Nat) :
    (engine.retime timing).deleteWord count =
      (engine.deleteWord count).retime timing := by
  simp only [deleteWord, buffer_retime, cursor_retime, currentLine_retime,
    cut_retime, ite_retime]
  rfl

@[simp] theorem changeWord_retime (count : Nat) :
    (engine.retime timing).changeWord count =
      (engine.changeWord count).retime timing := by
  simp only [changeWord, buffer_retime, cursor_retime, currentLine_retime,
    cut_retime, ite_retime]
  rfl

@[simp] theorem deleteInside?_retime (quote : Char) :
    (engine.retime timing).deleteInside? quote =
      (engine.deleteInside? quote).map (·.retime timing) := by
  simp only [deleteInside?, cursor_retime, currentLine_retime, Option.map_map]
  rfl

@[simp] theorem joinLines_retime (count : Nat) :
    (engine.retime timing).joinLines count =
      (engine.joinLines count).retime timing := by
  simp only [joinLines, buffer_retime, cursor_retime]
  exact engine.edited_moveToColumn_retime timing _ _

@[simp] theorem pasteLines_retime (start : Nat) (lines : List Line)
    (count : Nat) :
    (engine.retime timing).pasteLines start lines count =
      (engine.pasteLines start lines count).retime timing := by
  simp only [pasteLines, buffer_retime]
  exact engine.edited_moveTo_retime timing _ _

@[simp] theorem pasteText_retime (col : Nat) (text : Text) (count : Nat) :
    (engine.retime timing).pasteText col text count =
      (engine.pasteText col text count).retime timing := by
  simp only [pasteText, buffer_retime, cursor_retime]
  exact engine.edited_moveTo_retime timing _ _

@[simp] theorem paste_retime (behind : Bool) (count : Nat) :
    (engine.retime timing).paste behind count =
      (engine.paste behind count).retime timing := by
  simp only [paste, cursor_retime, registers_retime, currentLine_retime]
  split
  · rfl
  · exact engine.pasteLines_retime timing _ _ _
  · exact engine.pasteText_retime timing _ _ _

@[simp] theorem replaceChar_retime (c : Char) :
    (engine.retime timing).replaceChar c =
      (engine.replaceChar c).retime timing := by
  simp only [replaceChar, buffer_retime, cursor_retime]
  split
  · rfl
  · rfl

@[simp] theorem openLine_retime (line : Nat) :
    (engine.retime timing).openLine line =
      (engine.openLine line).retime timing := rfl

/-! Searches and the command line. -/

@[simp] theorem repeatSearch_retime (direction : Direction) (count : Nat) :
    (engine.retime timing).repeatSearch direction count =
      (engine.repeatSearch direction count).retime timing := by
  simp only [repeatSearch, lastSearch_retime, buffer_retime, cursor_retime]
  split
  · rfl
  · split
    · exact engine.moveTo_retime timing _
    · rfl

@[simp] theorem searchWord_retime :
    (engine.retime timing).searchWord = engine.searchWord.retime timing := by
  simp only [searchWord, currentLine_retime, cursor_retime]
  split
  · rename_i word _
    exact repeatSearch_retime { engine with lastSearch := some word }
      timing .forward 1
  · rfl

@[simp] theorem searchTyped_retime (typed : Text) :
    (engine.retime timing).searchTyped typed =
      (engine.searchTyped typed).retime timing := by
  unfold searchTyped
  dsimp only
  split
  · exact engine.repeatSearch_retime timing .forward 1
  · exact repeatSearch_retime { engine with lastSearch := some typed }
      timing .forward 1

@[simp] theorem substitute_retime (substitution : Substitution) :
    (engine.retime timing).substitute substitution =
      (engine.substitute substitution).retime timing := by
  simp only [substitute, buffer_retime, cursor_retime, ite_retime]
  rfl

@[simp] theorem execute_retime (command : ExCommand) :
    (engine.retime timing).execute command =
      (engine.execute command).retime timing := by
  cases command with
  | goToLine number => exact engine.moveTo_retime timing _
  | substitute substitution =>
      exact engine.substitute_retime timing substitution
  | write => rfl
  | quit => rfl
  | writeQuit => rfl
  | unknown text => rfl

@[simp] theorem runCommandLine_retime (line : Text) :
    (engine.retime timing).runCommandLine line =
      (engine.runCommandLine line).retime timing := by
  unfold runCommandLine
  split
  · split
    · exact engine.execute_retime timing _
    · rfl
  · exact engine.searchTyped_retime timing _
  · rfl

/-! Selections. -/

@[simp] theorem cutSelection_retime (selection : Selection) :
    (engine.retime timing).cutSelection selection =
      (engine.cutSelection selection).retime timing := rfl

@[simp] theorem enter_insert_retime :
    (engine.retime timing).enter .insert =
      (engine.enter .insert).retime timing := rfl

@[simp] theorem enter_command_retime (line : Text) :
    (engine.retime timing).enter (.command line) =
      (engine.enter (.command line)).retime timing := rfl

@[simp] theorem enter_normal_retime :
    (engine.retime timing).enter (.normal .none) =
      (engine.enter (.normal .none)).retime timing := rfl

@[simp] theorem enter_visual_retime (selection : Selection) :
    (engine.retime timing).enter (.visual selection .none) =
      (engine.enter (.visual selection .none)).retime timing := rfl

@[simp] theorem say_retime (notice : Notice) :
    (engine.retime timing).say notice = (engine.say notice).retime timing := rfl

@[simp] theorem deleteSelection_retime (selection : Selection) :
    (engine.retime timing).deleteSelection selection =
      (engine.deleteSelection selection).retime timing := by
  unfold deleteSelection
  dsimp only
  split <;> simp

@[simp] theorem yankSelection_retime (selection : Selection) :
    (engine.retime timing).yankSelection selection =
      (engine.yankSelection selection).retime timing := by
  unfold yankSelection
  dsimp only
  split <;> simp

@[simp] theorem changeSelection_retime (selection : Selection) :
    (engine.retime timing).changeSelection selection =
      (engine.changeSelection selection).retime timing := by
  unfold changeSelection
  split <;> simp

@[simp] theorem swapSelection_retime (selection : Selection) :
    (engine.retime timing).swapSelection selection =
      (engine.swapSelection selection).retime timing := rfl

/-! Keys. -/

@[simp] theorem runKeyCommand_retime (command : KeyCommand) (count : Nat) :
    (engine.retime timing).runKeyCommand command count =
      (engine.runKeyCommand command count).retime timing := by
  unfold runKeyCommand
  dsimp only
  cases command with
  | deleteInner quote =>
      simp only [deleteInside?_retime]
      cases engine.deleteInside? quote <;> simp
  | changeInner quote =>
      simp only [deleteInside?_retime]
      cases engine.deleteInside? quote <;> simp
  | _ => simp

@[simp] theorem runNormalAction?_retime (key : Key) (count : Nat) :
    (engine.retime timing).runNormalAction? key count =
      (engine.runNormalAction? key count).map (·.retime timing) := by
  unfold runNormalAction?
  dsimp only
  split <;> simp
  rfl

@[simp] theorem runNormalKey?_retime (key : Key) (count : Nat) :
    (engine.retime timing).runNormalKey? key count =
      (engine.runNormalKey? key count).map (·.retime timing) := by
  unfold runNormalKey?
  rw [target?_retime]
  split <;> simp

@[simp] theorem runVisualAction?_retime (selection : Selection) (key : Key) :
    (engine.retime timing).runVisualAction? selection key =
      (engine.runVisualAction? selection key).map (·.retime timing) := by
  unfold runVisualAction?
  split <;> simp

@[simp] theorem runVisualKey?_retime (selection : Selection) (key : Key)
    (count : Nat) :
    (engine.retime timing).runVisualKey? selection key count =
      (engine.runVisualKey? selection key count).map (·.retime timing) := by
  unfold runVisualKey?
  rw [target?_retime]
  split <;> simp

@[simp] theorem runInsertKey?_retime (key : Key) :
    (engine.retime timing).runInsertKey? key =
      (engine.runInsertKey? key).map (·.retime timing) := by
  unfold runInsertKey?
  cases key with
  | escape => simp
  | enter =>
      simp only [buffer_retime, cursor_retime]
      cases engine.buffer.breakLine? engine.cursor <;> rfl
  | backspace =>
      simp only [buffer_retime, cursor_retime]
      cases engine.buffer.deleteBefore? engine.cursor <;> rfl
  | delete => rfl
  | tab => rfl
  | char c =>
      simp only [buffer_retime, cursor_retime]
      cases engine.buffer.insertChar? engine.cursor c <;> rfl
  | unidentified => rfl
  | _ =>
      simp only [target?_retime]
      cases engine.target? _ 1 <;> simp

@[simp] theorem runCommandKey?_retime (line : Text) (key : Key) :
    (engine.retime timing).runCommandKey? line key =
      (engine.runCommandKey? line key).map (·.retime timing) := by
  unfold runCommandKey?
  split
  case h_3 => split <;> rfl
  all_goals simp

@[simp] theorem bare_retime :
    (engine.retime timing).enter ((engine.retime timing).mode.withKeys .none) =
      (engine.enter (engine.mode.withKeys .none)).retime timing := by
  unfold enter retime
  cases engine.mode <;> rfl

theorem enter_retime (mode : Mode) (deadline : Duration) :
    (engine.enter mode).retime { timing with deadline := deadline } =
      (engine.retime timing).enter (mode.due deadline) := rfl

theorem hold_retime (count : Option Nat) (held : Option Prefix) :
    (engine.retime timing).hold count held =
      (engine.hold count held).retime
        { timing with
          deadline := timing.now +
            .ofMilliseconds timing.waitMilliseconds } := by
  have mode : (engine.retime timing).mode = engine.mode.due timing.deadline :=
    rfl
  rw [hold, hold, mode, Mode.withKeys_due, enter_retime, Mode.due_withKeys]
  congr 2
  cases held <;> rfl

theorem readKey_retime (keys : PendingKeys) (starts : Char → Option Prefix)
    (key : Key) {run : Engine → Nat → Option Engine}
    (runs : ∀ engine count, run (retime engine timing) count =
      (run engine count).map (·.retime timing)) :
    ∃ deadline, timing.Due deadline ∧
      (engine.retime timing).readKey (keys.due timing.deadline) starts key run =
        ((engine.readKey keys starts key run).1,
          (engine.readKey keys starts key run).2.retime
            { timing with deadline := deadline }) := by
  unfold readKey
  rw [PendingKeys.read_due, bare_retime]
  dsimp only
  cases keys.read starts key with
  | takenIn count held =>
      exact ⟨_, Or.inr rfl, congrArg _ (engine.hold_retime timing count held)⟩
  | command command count =>
      exact ⟨_, Or.inl rfl,
        congrArg _ (runKeyCommand_retime _ timing command count)⟩
  | single count =>
      refine ⟨_, Or.inl rfl, ?_⟩
      dsimp only
      rw [runs]
      cases run (engine.enter (engine.mode.withKeys .none)) count <;> rfl

/--
A key does the same at any time, except that a prefix that starts to wait counts
from then.
-/
theorem dispatch_retime (event : KeyEvent) :
    ∃ deadline, timing.Due deadline ∧
      (engine.retime timing).dispatch event =
        ((engine.dispatch event).1,
          (engine.dispatch event).2.retime
            { timing with deadline := deadline }) := by
  have mode : (engine.retime timing).mode = engine.mode.due timing.deadline :=
    rfl
  unfold dispatch
  rw [mode, Mode.kind_due]
  split
  · refine ⟨_, Or.inl rfl, ?_⟩
    split <;> rfl
  · cases engine.mode with
    | normal keys =>
        exact engine.readKey_retime timing keys _ _ fun engine count =>
          engine.runNormalKey?_retime timing event.key count
    | visual selection keys =>
        exact engine.readKey_retime timing keys _ _ fun engine count =>
          engine.runVisualKey?_retime timing selection event.key count
    | insert =>
        refine ⟨_, Or.inl rfl, ?_⟩
        dsimp only [Mode.due]
        rw [runInsertKey?_retime]
        cases engine.runInsertKey? event.key <;> rfl
    | command line =>
        refine ⟨_, Or.inl rfl, ?_⟩
        dsimp only [Mode.due]
        rw [runCommandKey?_retime]
        cases engine.runCommandKey? line event.key <;> rfl

end Engine

end ModalEditing
