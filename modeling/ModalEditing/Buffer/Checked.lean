import ModalEditing.Buffer.Edit
import ModalEditing.Checked

namespace ModalEditing.Buffer

open Checked

/-!
Edits at one place with the partial operations that they are made of. Before it
comes to these, an edit looks whether the place is one of the text, and refuses
it if not. The one that deletes backwards looks at the line only: behind the end
of a line there is no character to take out.
-/

def tryInsertChar? (buffer : Buffer) (p : Position) (c : Char) :
    Checked (Option Buffer) := do
  if buffer.hasGap p then
    return some (buffer.setLine p.line
      (← splice (buffer.lineText p.line) p.col p.col [c]))
  else return none

def tryBreakLine? (buffer : Buffer) (p : Position) :
    Checked (Option Buffer) := do
  if buffer.hasGap p then
    let line := buffer.lineText p.line
    let upper := buffer.setLine p.line (line.take p.col)
    let below ← add p.line 1
    return some ⟨← splice upper.lines below below [line.drop p.col]⟩
  else return none

def tryDeleteChar? (buffer : Buffer) (p : Position) :
    Checked (Option Buffer) := do
  if buffer.hasChar p then
    let (_, line) ← remove (buffer.lineText p.line) p.col
    return some (buffer.setLine p.line line)
  else return none

def tryDeleteBefore? (buffer : Buffer) (p : Position) :
    Checked (Option (Buffer × Position)) := do
  if buffer.lineCount ≤ p.line then return none
  else if 0 < p.col then
    let col ← sub p.col 1
    let (_, line) ← remove (buffer.lineText p.line) col
    return some (buffer.setLine p.line line, ⟨p.line, col⟩)
  else if 0 < p.line then
    let (current, lines) ← remove buffer.lines p.line
    let number ← sub p.line 1
    let upper ← item lines number
    return some (⟨lines.set number (upper ++ current)⟩, ⟨number, upper.length⟩)
  else return none

end ModalEditing.Buffer
