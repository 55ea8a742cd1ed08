import ModalEditing.Engine.Basic
import ModalEditing.Motion.Column
import ModalEditing.Motion.Word

namespace ModalEditing.Engine

/--
Where a motion key goes with a repeat count, before the cursor is put to the
nearest place.
-/
def target? (engine : Engine) (key : Key) (count : Nat) : Option Position :=
  let buffer := engine.buffer
  let ⟨line, col⟩ := engine.cursor
  match key with
  | .char 'h' | .left => some ⟨line, col - count⟩
  | .char 'l' | .right => some ⟨line, col + count⟩
  | .char 'j' | .down => some ⟨min (line + count) buffer.lastLine, col⟩
  | .char 'k' | .up => some ⟨line - count, col⟩
  | .char 'w' => some (repeatMotion buffer.wordForward count engine.cursor)
  | .char 'b' => some (repeatMotion buffer.wordBackward count engine.cursor)
  | .char 'e' => some (repeatMotion buffer.wordEnd count engine.cursor)
  | .char '0' | .home => some ⟨line, 0⟩
  | .char '^' => some ⟨line, (buffer.lineText line).indentation⟩
  | .char '$' | .toEnd => some ⟨line, buffer.lineLength line⟩
  | .char 'G' => some ⟨buffer.lastLine, col⟩
  | _ => none

def moveToColumn (engine : Engine) (col : Option Nat) : Engine :=
  match col with
  | some col => engine.moveTo ⟨engine.cursor.line, col⟩
  | none => engine

end ModalEditing.Engine
