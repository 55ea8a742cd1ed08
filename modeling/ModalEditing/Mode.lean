import ModalEditing.PendingKeys
import ModalEditing.Position

namespace ModalEditing

inductive SelectionKind where
  | chars
  | lines
  deriving DecidableEq, Repr

/--
A selection reaches from an anchor, which stays, to a head, which goes with the
cursor.
-/
structure Selection where
  anchor : Position
  head : Position
  kind : SelectionKind
  deriving DecidableEq, Repr

namespace Selection

def charAt (p : Position) : Selection :=
  ⟨p, p, .chars⟩

def lineAt (line lastCol : Nat) : Selection :=
  ⟨⟨line, 0⟩, ⟨line, lastCol⟩, .lines⟩

def first (selection : Selection) : Position :=
  if selection.anchor ≤ selection.head then selection.anchor else selection.head

def last (selection : Selection) : Position :=
  if selection.anchor ≤ selection.head then selection.head else selection.anchor

def swapped (selection : Selection) : Selection :=
  { selection with anchor := selection.head, head := selection.anchor }

theorem first_le_last (selection : Selection) :
    selection.first ≤ selection.last := by
  unfold first last
  split
  · assumption
  · exact (Position.le_total selection.anchor selection.head).resolve_left ‹_›

@[simp] theorem swapped_swapped (selection : Selection) :
    selection.swapped.swapped = selection := rfl

end Selection

inductive ModeKind where
  | normal
  | insert
  | visual
  | command
  deriving DecidableEq, Repr

def ModeKind.title : ModeKind → Text
  | normal => "NORMAL"
  | insert => "INSERT"
  | visual => "VISUAL"
  | command => "COMMAND"

/-- A mode with what exists in that mode only. -/
inductive Mode where
  | normal (keys : PendingKeys)
  | insert
  | visual (selection : Selection) (keys : PendingKeys)
  /-- The typed line starts with the key that opened it. -/
  | command (line : Text)
  deriving DecidableEq

namespace Mode

def kind : Mode → ModeKind
  | normal _ => .normal
  | insert => .insert
  | visual _ _ => .visual
  | command _ => .command

def selection? : Mode → Option Selection
  | visual selection _ => some selection
  | _ => none

def keys? : Mode → Option PendingKeys
  | normal keys => some keys
  | visual _ keys => some keys
  | _ => none

def withKeys (mode : Mode) (keys : PendingKeys) : Mode :=
  match mode with
  | normal _ => normal keys
  | visual selection _ => visual selection keys
  | insert => insert
  | command line => command line

def commandArea : Mode → Text
  | normal keys => keys.display
  | visual _ keys => keys.display
  | command line => line
  | insert => []

@[simp] theorem kind_withKeys (mode : Mode) (keys : PendingKeys) :
    (mode.withKeys keys).kind = mode.kind := by
  cases mode <;> rfl

@[simp] theorem selection?_withKeys (mode : Mode) (keys : PendingKeys) :
    (mode.withKeys keys).selection? = mode.selection? := by
  cases mode <;> rfl

end Mode

end ModalEditing
