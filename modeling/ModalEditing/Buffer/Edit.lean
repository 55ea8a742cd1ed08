import ModalEditing.Buffer.Basic

namespace ModalEditing.Buffer

/-!
Edits of a buffer. An edit that has no answer at a place outside of the text
gives `none`; the others take the nearest place, or do nothing there.
-/

def editLine (buffer : Buffer) (line : Nat) (edit : Line → Line) : Buffer :=
  ⟨buffer.lines.modify line edit⟩

def setLine (buffer : Buffer) (line : Nat) (text : Line) : Buffer :=
  buffer.editLine line fun _ => text

/--
Whether there is a place between the characters of a line, its two ends
included.
-/
def hasGap (buffer : Buffer) (p : Position) : Bool :=
  p.line < buffer.lineCount && p.col ≤ buffer.lineLength p.line

def hasChar (buffer : Buffer) (p : Position) : Bool :=
  p.line < buffer.lineCount && p.col < buffer.lineLength p.line

def insertChar? (buffer : Buffer) (p : Position) (c : Char) : Option Buffer :=
  if buffer.hasGap p then
    some (buffer.editLine p.line fun line =>
      line.take p.col ++ c :: line.drop p.col)
  else none

def breakLine? (buffer : Buffer) (p : Position) : Option Buffer :=
  if buffer.hasGap p then
    let line := buffer.lineText p.line
    some ⟨buffer.lines.take p.line ++
      line.take p.col :: line.drop p.col :: buffer.lines.drop (p.line + 1)⟩
  else none

def deleteChar? (buffer : Buffer) (p : Position) : Option Buffer :=
  if buffer.hasChar p then some (buffer.editLine p.line (·.eraseIdx p.col))
  else none

/--
Deletes the character or the line break before a place, and gives the place it
was at.
-/
def deleteBefore? (buffer : Buffer) (p : Position) :
    Option (Buffer × Position) :=
  if p.line < buffer.lineCount then
    match p with
    | ⟨line, col + 1⟩ =>
        some (buffer.editLine line (·.eraseIdx col), ⟨line, col⟩)
    | ⟨line + 1, 0⟩ =>
        let upper := buffer.lineText line
        some
          (⟨buffer.lines.take line ++
              (upper ++ buffer.lineText (line + 1)) ::
                buffer.lines.drop (line + 2)⟩,
            ⟨line, upper.length⟩)
    | ⟨0, 0⟩ => none
  else none

/-- The lines that a text makes between the two parts of a line. -/
def graft (before after : Line) : List Line → List Line
  | [] => [before ++ after]
  | [only] => [before ++ only ++ after]
  | first :: second :: rest =>
      (before ++ first) :: graft [] after (second :: rest)

def behind (p : Position) (pieces : List Line) : Position :=
  match pieces with
  | [] => p
  | [only] => ⟨p.line, p.col + only.length⟩
  | _ :: second :: rest =>
      ⟨p.line + rest.length + 1,
        ((second :: rest).getLast (List.cons_ne_nil second rest)).length⟩

/--
Inserts a text at the nearest place, and gives the place behind its last
character.
-/
def insertText (buffer : Buffer) (p : Position)
    (text : Text) : Buffer × Position :=
  let number := min p.line buffer.lastLine
  let line := buffer.lineText number
  let col := min p.col line.length
  let pieces := Text.splitLines text
  (⟨buffer.lines.take number ++ graft (line.take col) (line.drop col) pieces ++
      buffer.lines.drop (number + 1)⟩,
    behind ⟨number, col⟩ pieces)

/-- Removes the columns from `start` to before `stop` of a line. -/
def deleteColumns (buffer : Buffer) (line start stop : Nat) : Buffer × Text :=
  (buffer.editLine line fun text =>
    text.take start ++ text.drop (max start stop),
      ((buffer.lineText line).drop start).take (stop - start))

/-- The text between two places, the character at the second one included. -/
def spanText (buffer : Buffer) (first last : Position) : Text :=
  if first.line = last.line then
    ((buffer.lineText first.line).drop first.col).take
      (last.col + 1 - first.col)
  else
    Text.joinLines <|
      (buffer.lineText first.line).drop first.col ::
        ((buffer.lines.take last.line).drop (first.line + 1) ++
          [(buffer.lineText last.line).take (last.col + 1)])

def deleteSpan (buffer : Buffer) (first last : Position) : Buffer × Text :=
  (if first.line = last.line then
      (buffer.deleteColumns first.line first.col (last.col + 1)).1
    else
      ⟨buffer.lines.take first.line ++
        ((buffer.lineText first.line).take first.col ++
          (buffer.lineText last.line).drop (last.col + 1)) ::
        buffer.lines.drop (last.line + 1)⟩,
    buffer.spanText first last)

/-- Removes whole lines; if no line is left, the buffer is empty. -/
def deleteLines (buffer : Buffer) (start count : Nat) : Buffer × List Line :=
  (ofLines (buffer.lines.take start ++ buffer.lines.drop (start + count)),
    (buffer.lines.drop start).take count)

/-- Inserts whole lines before a line, or behind the last one. -/
def insertLines (buffer : Buffer) (start : Nat) (lines : List Line) : Buffer :=
  ⟨buffer.lines.take start ++ lines ++ buffer.lines.drop start⟩

/--
Two lines in one, without the blanks that start the second, and with a space if
both remain.
-/
def joined (upper lower : Line) : Line :=
  let lower := Text.trimStart lower
  if lower.isEmpty || upper.isEmpty then upper ++ lower
  else upper ++ ' ' :: lower

def joinNext? (buffer : Buffer) (line : Nat) : Option (Buffer × Nat) :=
  (buffer.line? (line + 1)).map fun lower =>
    let upper := buffer.lineText line
    (⟨buffer.lines.take line ++
      joined upper lower :: buffer.lines.drop (line + 2)⟩, upper.length)

@[simp] theorem lineCount_editLine (buffer : Buffer) (line : Nat)
    (edit : Line → Line) :
    (buffer.editLine line edit).lineCount = buffer.lineCount := by
  simp [editLine, lineCount]

theorem hasGap_iff (buffer : Buffer) (p : Position) :
    buffer.hasGap p = true ↔
      p.line < buffer.lineCount ∧ p.col ≤ buffer.lineLength p.line := by
  simp [hasGap]

theorem hasChar_iff (buffer : Buffer) (p : Position) :
    buffer.hasChar p = true ↔
      p.line < buffer.lineCount ∧ p.col < buffer.lineLength p.line := by
  simp [hasChar]

theorem hasChar_of_lt {buffer : Buffer} {p : Position}
    (inside : p.col < buffer.lineLength p.line) : buffer.hasChar p = true :=
  (hasChar_iff buffer p).mpr ⟨lt_lineCount_of_lt_lineLength inside, inside⟩

theorem hasChar_of_char? {buffer : Buffer} {p : Position} {c : Char}
    (found : buffer.char? p = some c) : buffer.hasChar p = true :=
  hasChar_of_lt (List.getElem?_eq_some_iff.mp found).1

end ModalEditing.Buffer
