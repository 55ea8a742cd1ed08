import ModalEditing.Engine.CommandLine
import ModalEditing.Engine.Visual

namespace ModalEditing.Engine

/-!
What a key does in each mode. A key is either consumed or left to the host; a
key that is left to the host may still have dropped the pending keys.
-/

/-- Runs a command of several keys, which are no longer pending. -/
def runKeyCommand (engine : Engine) (command : KeyCommand)
    (count : Nat) : Engine :=
  let ⟨line, col⟩ := engine.cursor
  match command with
  | .deleteLines => engine.deleteLines line count
  | .yankLines => engine.yankLines line count
  | .changeLines => engine.changeLines line count
  | .deleteWord => (engine.deleteWord count).clampCursor
  | .changeWord => (engine.changeWord count).enter .insert
  | .goToFirstLine => engine.moveTo .origin
  | .deleteInner quote =>
      ((engine.deleteInside? quote).map clampCursor).getD engine
  | .changeInner quote =>
      ((engine.deleteInside? quote).map (enter · .insert)).getD engine
  | .replace c => engine.replaceChar c
  | .findForward c =>
      engine.moveToColumn (engine.currentLine.findForward? col c count)
  | .findBackward c =>
      engine.moveToColumn (engine.currentLine.findBackward? col c count)

def runNormalAction? (engine : Engine) (key : Key) (count : Nat) :
    Option Engine :=
  let ⟨line, col⟩ := engine.cursor
  let length := engine.currentLine.length
  match key with
  | .escape => some engine
  | .char 'i' => some (engine.enter .insert)
  | .char 'a' =>
      some
        ((engine.atColumn (if 0 < length then col + 1 else col)).enter .insert)
  | .char 'A' => some ((engine.atColumn length).enter .insert)
  | .char 'I' =>
      some ((engine.atColumn engine.currentLine.indentation).enter .insert)
  | .char 'o' => some (engine.openLine (line + 1))
  | .char 'O' => some (engine.openLine line)
  | .char 's' => some ((engine.deleteForward count).enter .insert)
  | .char 'S' => some (engine.changeLines line count)
  | .char 'C' => some (engine.deleteToLineEnd.enter .insert)
  | .char 'x' | .delete => some (engine.deleteForward count).clampCursor
  | .char 'X' => some (engine.deleteBackward count)
  | .char 'D' => some engine.deleteToLineEnd.clampCursor
  | .char 'p' => some (engine.paste true count)
  | .char 'P' => some (engine.paste false count)
  | .char 'J' => some (engine.joinLines count)
  | .char 'v' => some (engine.enter (.visual (.charAt engine.cursor) .none))
  | .char 'V' =>
      some
        (engine.enter
          (.visual (.lineAt line (engine.buffer.maxCol line false)) .none))
  | .char ':' => some (engine.enter (.command [':']))
  | .char '/' => some (engine.enter (.command ['/']))
  | .char 'n' => some (engine.repeatSearch .forward count)
  | .char 'N' => some (engine.repeatSearch .backward count)
  | .char '*' => some engine.searchWord
  | .char 'u' => some (engine.say .noUndo)
  | _ => none

def runNormalKey? (engine : Engine) (key : Key) (count : Nat) : Option Engine :=
  match engine.target? key count with
  | some target => some (engine.moveTo target)
  | none => engine.runNormalAction? key count

def runVisualAction? (engine : Engine) (selection : Selection)
    (key : Key) : Option Engine :=
  match key with
  | .escape => some (engine.enter (.normal .none)).clampCursor
  | .char 'o' => some (engine.swapSelection selection)
  | .char 'd' | .char 'x' | .delete => some (engine.deleteSelection selection)
  | .char 'y' => some (engine.yankSelection selection)
  | .char 'c' => some (engine.changeSelection selection)
  | _ => none

def runVisualKey? (engine : Engine) (selection : Selection) (key : Key)
    (count : Nat) : Option Engine :=
  match engine.target? key count with
  | some target => some (engine.moveTo target)
  | none => engine.runVisualAction? selection key

/-- Takes keys in; a prefix starts to wait. -/
def hold (engine : Engine) (count : Option Nat)
    (held : Option Prefix) : Engine :=
  engine.enter <| engine.mode.withKeys
    ⟨count, held.map (HeldPrefix.start · engine.now engine.settings.wait)⟩

def readKey (engine : Engine) (keys : PendingKeys)
    (starts : Char → Option Prefix) (key : Key)
    (run : Engine → Nat → Option Engine) : Bool × Engine :=
  let bare := engine.enter (engine.mode.withKeys .none)
  match keys.read starts key with
  | .takenIn count held => (true, engine.hold count held)
  | .command command count => (true, bare.runKeyCommand command count)
  | .single count =>
      match run bare count with
      | some next => (true, next)
      | none => (false, bare)

def runInsertKey? (engine : Engine) (key : Key) : Option Engine :=
  let cursor := engine.cursor
  match key with
  | .escape =>
      some ((engine.atColumn (cursor.col - 1)).enter
        (.normal .none)).clampCursor
  | .enter =>
      some <|
        match engine.buffer.breakLine? cursor with
        | some buffer =>
            { engine with buffer := buffer, cursor := ⟨cursor.line + 1, 0⟩ }
        | none => engine
  | .backspace =>
      some <|
        match engine.buffer.deleteBefore? cursor with
        | some (buffer, p) => { engine with buffer := buffer, cursor := p }
        | none => engine
  | .delete =>
      some { engine with
        buffer := (engine.buffer.deleteChar? cursor).getD engine.buffer }
  | .tab =>
      let (buffer, p) :=
        engine.buffer.insertText cursor
          (List.replicate engine.settings.tabWidth ' ')
      some { engine with buffer := buffer, cursor := p }
  | .char c =>
      some <|
        match engine.buffer.insertChar? cursor c with
        | some buffer =>
            { engine with buffer := buffer }.atColumn (cursor.col + 1)
        | none => engine
  | .unidentified => none
  | key => some (((engine.target? key 1).map engine.moveTo).getD engine)

def runCommandKey? (engine : Engine) (line : Text)
    (key : Key) : Option Engine :=
  match key with
  | .escape => some (engine.enter (.normal .none))
  | .enter =>
      some ((engine.enter (.normal .none)).runCommandLine line).clampCursor
  | .backspace =>
      some (engine.enter (if line.length ≤ 1 then
        .normal .none else .command line.dropLast))
  | .char c => some (engine.enter (.command (line ++ [c])))
  | _ => none

/--
Whether a key is consumed, and the editor after it; a modifier makes a key
another one.
-/
def dispatch (engine : Engine) (event : KeyEvent) : Bool × Engine :=
  if event.modifiers.hasCommand then
    if event.key = .char 'r' && event.modifiers.isCtrl &&
      engine.mode.kind = .normal then
      (true, engine.say .noRedo)
    else (false, engine)
  else
    match engine.mode with
    | .normal keys =>
        engine.readKey keys Prefix.ofNormalKey? event.key
          (runNormalKey? · event.key)
    | .visual selection keys =>
        engine.readKey keys Prefix.ofVisualKey? event.key
          (runVisualKey? · selection event.key)
    | .insert =>
        match engine.runInsertKey? event.key with
        | some next => (true, next)
        | none => (false, engine)
    | .command line =>
        match engine.runCommandKey? line event.key with
        | some next => (true, next)
        | none => (false, engine)

end ModalEditing.Engine
