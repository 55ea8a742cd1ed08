import ModalEditing.Text.Basic

namespace ModalEditing

/-- What a register holds: whole lines, or characters that may span lines. -/
inductive RegisterContent where
  | lines (lines : List Line)
  | chars (text : Text)
  deriving DecidableEq, Repr

namespace RegisterContent

/-- Whole lines are stored with a line break behind each of them. -/
def encodeLines (lines : List Line) : Text :=
  Text.joinLines lines ++ ['\n']

/-- Reads a stored text; an empty one holds nothing. -/
def decode? (text : Text) : Option RegisterContent :=
  if text.isEmpty then none
  else if text.getLast? = some '\n' then
    some (lines (Text.splitLines text.dropLast))
  else some (chars text)

@[simp] theorem decode?_nil : decode? [] = none := rfl

end RegisterContent

/-- Stored texts by name, sorted. -/
structure Registers where
  slots : List (Char × Text)
  deriving DecidableEq, Repr

namespace Registers

def empty : Registers := ⟨[]⟩

def unnamed : Char := '"'

def insertSlot (name : Char) (text : Text) :
    List (Char × Text) → List (Char × Text)
  | [] => [(name, text)]
  | (other, held) :: rest =>
      if name < other then (name, text) :: (other, held) :: rest
      else if name = other then (name, text) :: rest
      else (other, held) :: insertSlot name text rest

def store (registers : Registers) (name : Char) (text : Text) : Registers :=
  ⟨insertSlot name text registers.slots⟩

def storeLines (registers : Registers) (name : Char)
    (lines : List Line) : Registers :=
  registers.store name (RegisterContent.encodeLines lines)

def get? (registers : Registers) (name : Char) : Option Text :=
  registers.slots.lookup name

def content? (registers : Registers) (name : Char) :
    Option RegisterContent := do
  RegisterContent.decode? (← registers.get? name)

@[simp] theorem get?_empty (name : Char) : empty.get? name = none := rfl

theorem lookup_insertSlot (name other : Char) (text : Text)
    (slots : List (Char × Text)) :
    (insertSlot name text slots).lookup other =
      if other = name then some text else slots.lookup other := by
  induction slots with
  | nil => grind [insertSlot]
  | cons slot rest ih => grind [insertSlot]

@[simp] theorem get?_store (registers : Registers) (name other : Char)
    (text : Text) :
    (registers.store name text).get? other =
      if other = name then some text else registers.get? other :=
  lookup_insertSlot name other text registers.slots

end Registers

end ModalEditing
