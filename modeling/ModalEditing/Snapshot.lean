import ModalEditing.Mode
import ModalEditing.Register

namespace ModalEditing

/-- Everything about an editor that can be seen. -/
structure Snapshot where
  mode : ModeKind
  cursor : Position
  lines : List Line
  selection : Option Selection
  commandArea : Text
  registers : Registers
  lastSearch : Option Text
  message : Text
  deriving DecidableEq

namespace Snapshot

def line? (snapshot : Snapshot) (line : Nat) : Option Line :=
  snapshot.lines[line]?

def currentLine (snapshot : Snapshot) : Line :=
  (snapshot.line? snapshot.cursor.line).getD []

def text (snapshot : Snapshot) : Text :=
  Text.joinLines snapshot.lines

def register? (snapshot : Snapshot) (name : Char) : Option Text :=
  snapshot.registers.get? name

end Snapshot

end ModalEditing
