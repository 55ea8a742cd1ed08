import ModalEditing.Position
import ModalEditing.Text.Basic

namespace ModalEditing

/-- The lines of a text. Every editing operation leaves at least one. -/
structure Buffer where
  lines : List Line
  deriving DecidableEq, Repr

namespace Buffer

def empty : Buffer := ⟨[[]]⟩

def ofLines : List Line → Buffer
  | [] => empty
  | lines => ⟨lines⟩

def ofContent (content : Text) : Buffer :=
  ofLines (Text.contentLines content)

def lineCount (buffer : Buffer) : Nat :=
  buffer.lines.length

def lastLine (buffer : Buffer) : Nat :=
  buffer.lineCount - 1

def line? (buffer : Buffer) (line : Nat) : Option Line :=
  buffer.lines[line]?

/-- The characters of a line, none for a line past the end. -/
def lineText (buffer : Buffer) (line : Nat) : Line :=
  (buffer.line? line).getD []

def lineLength (buffer : Buffer) (line : Nat) : Nat :=
  (buffer.lineText line).length

def char? (buffer : Buffer) (p : Position) : Option Char :=
  (buffer.lineText p.line)[p.col]?

/--
The largest column of a cursor, which may stand on a character or also behind
the last one.
-/
def maxCol (buffer : Buffer) (line : Nat) (behindLast : Bool) : Nat :=
  if behindLast then buffer.lineLength line else buffer.lineLength line - 1

def text (buffer : Buffer) : Text :=
  Text.joinLines buffer.lines

def isEmpty (buffer : Buffer) : Bool :=
  buffer == empty

@[simp] theorem lines_empty : empty.lines = [[]] := rfl

@[simp] theorem lines_ofLines_cons (line : Line) (rest : List Line) :
    (ofLines (line :: rest)).lines = line :: rest := rfl

theorem ofLines_ne_nil (lines : List Line) : (ofLines lines).lines ≠ [] := by
  cases lines <;> simp [ofLines, empty]

theorem lines_ofLines {lines : List Line} (nonempty : lines ≠ []) :
    (ofLines lines).lines = lines := by
  cases lines with
  | nil => contradiction
  | cons line rest => rfl

@[simp] theorem lineText_mk (lines : List Line) (line : Nat) :
    (Buffer.mk lines).lineText line = lines[line]?.getD [] := rfl

theorem line?_of_lt {buffer : Buffer} {line : Nat}
    (within : line < buffer.lineCount) :
    buffer.line? line = some (buffer.lineText line) := by
  have found : buffer.line? line = some buffer.lines[line] :=
    List.getElem?_eq_getElem within
  rw [lineText, found, Option.getD_some]

theorem lineText_of_le {buffer : Buffer} {line : Nat}
    (beyond : buffer.lineCount ≤ line) : buffer.lineText line = [] := by
  rw [lineText, line?, List.getElem?_eq_none beyond, Option.getD_none]

theorem lt_lineCount_of_lt_lineLength {buffer : Buffer} {line col : Nat}
    (inside : col < buffer.lineLength line) : line < buffer.lineCount := by
  refine Nat.lt_of_not_le fun beyond => ?_
  rw [lineLength, lineText_of_le beyond] at inside
  exact Nat.not_lt_zero col inside

end Buffer

end ModalEditing
