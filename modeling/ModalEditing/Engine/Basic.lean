import ModalEditing.Buffer.Edit
import ModalEditing.Notice
import ModalEditing.Settings
import ModalEditing.Snapshot

namespace ModalEditing

structure Engine where
  settings : Settings
  mode : Mode
  buffer : Buffer
  cursor : Position
  registers : Registers
  lastSearch : Option Text
  notice : Notice
  /-- The editor's own clock, which its host sets. -/
  now : Duration
  deriving DecidableEq

namespace Engine

def fresh (settings : Settings) : Engine where
  settings := settings
  mode := .normal .none
  buffer := .empty
  cursor := .origin
  registers := .empty
  lastSearch := none
  notice := .nothing
  now := .zero

def ofContent (content : Text) : Engine :=
  { fresh .standard with buffer := .ofContent content }

def snapshot (engine : Engine) : Snapshot where
  mode := engine.mode.kind
  cursor := engine.cursor
  lines := engine.buffer.lines
  selection := engine.mode.selection?
  commandArea := engine.mode.commandArea
  registers := engine.registers
  lastSearch := engine.lastSearch
  message := engine.notice.text

def say (engine : Engine) (notice : Notice) : Engine :=
  { engine with notice := notice }

def enter (engine : Engine) (mode : Mode) : Engine :=
  { engine with mode := mode }

def store (engine : Engine) (text : Text) : Engine :=
  { engine with registers := engine.registers.store Registers.unnamed text }

def storeLines (engine : Engine) (lines : List Line) : Engine :=
  { engine with
    registers := engine.registers.storeLines Registers.unnamed lines }

def currentLine (engine : Engine) : Line :=
  engine.buffer.lineText engine.cursor.line

def atColumn (engine : Engine) (col : Nat) : Engine :=
  { engine with cursor := { engine.cursor with col := col } }

/--
The nearest place where the cursor may stand in a mode: behind a line only to
insert there.
-/
def nearest (buffer : Buffer) (kind : ModeKind) (p : Position) : Position :=
  let line := min p.line buffer.lastLine
  ⟨line, min p.col (buffer.maxCol line (kind == .insert))⟩

def clampCursor (engine : Engine) : Engine :=
  { engine with cursor := nearest engine.buffer engine.mode.kind engine.cursor }

/-- The mode after the cursor has moved: a selection follows it. -/
def follow (mode : Mode) (p : Position) : Mode :=
  match mode with
  | .visual selection keys => .visual { selection with head := p } keys
  | mode => mode

def moveTo (engine : Engine) (p : Position) : Engine :=
  let cursor := nearest engine.buffer engine.mode.kind p
  { engine with cursor := cursor, mode := follow engine.mode cursor }

@[simp] theorem kind_follow (mode : Mode) (p : Position) :
    (follow mode p).kind = mode.kind := by
  cases mode <;> rfl

@[simp] theorem cursor_moveTo (engine : Engine) (p : Position) :
    (engine.moveTo p).cursor = nearest engine.buffer engine.mode.kind p := rfl

@[simp] theorem buffer_moveTo (engine : Engine) (p : Position) :
    (engine.moveTo p).buffer = engine.buffer := rfl

end Engine

end ModalEditing
