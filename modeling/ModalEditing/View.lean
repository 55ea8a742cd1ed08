import ModalEditing.Snapshot

namespace ModalEditing

/-!
Snapshots as plain text: some lines of the buffer, with the cursor in brackets
and the selection in braces, and a status line below them.
-/

structure View where
  height : Nat
  deriving DecidableEq, Repr

namespace View

def standard : View := ⟨20⟩

/--
The first line in view: the cursor's line is the last one unless it is near the
start.
-/
def top (view : View) (cursorLine : Nat) : Nat :=
  cursorLine + 1 - max view.height 1

def isSelected (snapshot : Snapshot) (p : Position) : Bool :=
  match snapshot.selection with
  | none => false
  | some selection =>
      match selection.kind with
      | .chars => selection.first ≤ p && p ≤ selection.last
      | .lines => selection.first.line ≤ p.line && p.line ≤ selection.last.line

/--
Writes the characters of a line from column `col` on, with braces where the
selection starts and ends; `inside` tells whether a brace is open.
-/
def markChars (selected : Nat → Bool) (cursor : Option Nat) (inside : Bool)
    (col : Nat) : Line → Text
  | [] => if inside then ['\x7d'] else []
  | c :: rest =>
      (if selected col && !inside then ['\x7b']
        else if inside && !selected col then ['\x7d']
        else []) ++
      (if cursor = some col then ['[', c, ']'] else [c]) ++
      markChars selected cursor (selected col) (col + 1) rest

def cursorOn? (snapshot : Snapshot) (row : Nat) : Option Nat :=
  if row = snapshot.cursor.line then some snapshot.cursor.col else none

def renderLine (snapshot : Snapshot) (row : Nat) (line : Line) : Text :=
  let cursor := cursorOn? snapshot row
  markChars (fun col => isSelected snapshot ⟨row, col⟩) cursor false 0 line ++
    (if cursor.any (line.length ≤ ·) then ['[', ' ', ']'] else [])

def renderRow (snapshot : Snapshot) (row : Nat) : Text :=
  match snapshot.line? row with
  | some line => renderLine snapshot row line
  | none => ['~']

/-- Mode, command area, place of the cursor counted from one, and message. -/
def renderStatus (snapshot : Snapshot) : Text :=
  snapshot.mode.title ++
    (if snapshot.commandArea.isEmpty then
      [] else ' ' :: snapshot.commandArea) ++
    (if snapshot.mode = .command then []
      else
        ' ' :: Text.decimal (snapshot.cursor.line + 1) ++
          ':' :: Text.decimal (snapshot.cursor.col + 1)) ++
    (if snapshot.message.isEmpty then [] else " | ".toList ++ snapshot.message)

def render (view : View) (snapshot : Snapshot) : Text :=
  (List.range' (view.top snapshot.cursor.line) view.height).flatMap
      (fun row => renderRow snapshot row ++ ['\n']) ++
    renderStatus snapshot

end View

end ModalEditing
