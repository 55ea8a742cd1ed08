import ModalEditing.Engine.Motion

namespace ModalEditing.Engine

/-!
The editing commands of normal and insert mode. What they delete or change goes
to the unnamed register. A command on characters or words that finds none of
them on the line stores nothing, and neither does a deletion of no lines; what a
pair of quotes encloses is stored also when it is empty.
-/

def cut (engine : Engine) (start stop : Nat) : Engine :=
  let (buffer, text) :=
    engine.buffer.deleteColumns engine.cursor.line start stop
  { engine with buffer := buffer }.store text

def deleteForward (engine : Engine) (count : Nat) : Engine :=
  let col := engine.cursor.col
  let length := engine.currentLine.length
  if col < length then engine.cut col (min (col + count) length) else engine

def deleteBackward (engine : Engine) (count : Nat) : Engine :=
  let col := engine.cursor.col
  if col = 0 then engine
  else ((engine.cut (col - count) col).atColumn (col - count)).clampCursor

def deleteToLineEnd (engine : Engine) : Engine :=
  let length := engine.currentLine.length
  if engine.cursor.col < length then engine.cut engine.cursor.col length
  else engine

/--
Deletes whole lines and moves to the text of the line that is then in their
place.
-/
def deleteLines (engine : Engine) (line count : Nat) : Engine :=
  let (buffer, removed) := engine.buffer.deleteLines line count
  if removed.isEmpty then engine
  else
    let line := min line buffer.lastLine
    let cursor : Position := ⟨line, (buffer.lineText line).indentation⟩
    ({ engine with buffer := buffer, cursor := cursor }.storeLines
      removed).clampCursor

def yankLines (engine : Engine) (line count : Nat) : Engine :=
  let lines := (engine.buffer.lines.drop line).take count
  (engine.storeLines lines).say (.yankedLines lines.length)

/-- Replaces whole lines by an empty one to insert into. -/
def changeLines (engine : Engine) (line count : Nat) : Engine :=
  let (buffer, removed) := engine.buffer.deleteLines line count
  let engine := (engine.storeLines removed).enter .insert
  if buffer.isEmpty then { engine with buffer := buffer, cursor := .origin }
  else
    { engine with
      buffer := buffer.insertLines line [[]]
      cursor := ⟨line, 0⟩ }

/-- Deletes words with the blanks behind them, on one line only. -/
def deleteWord (engine : Engine) (count : Nat) : Engine :=
  let ⟨line, col⟩ := engine.cursor
  let length := engine.currentLine.length
  if col < length then
    let target := repeatMotion engine.buffer.wordForward count engine.cursor
    engine.cut col (if target.line = line then target.col else length)
  else engine

/--
The column behind `count` more words of a line than those that end before
`stop`.
-/
def wordsEnd (buffer : Buffer) (line : Nat) : Nat → Nat → Nat
  | 0, stop => stop
  | count + 1, stop =>
      let next := buffer.wordEnd ⟨line, stop - 1⟩
      if next.line ≠ line then buffer.lineLength line
      else if next.col < stop then stop
      else wordsEnd buffer line count (next.col + 1)

/-- Deletes words without the blanks behind the last one. -/
def changeWord (engine : Engine) (count : Nat) : Engine :=
  let ⟨line, col⟩ := engine.cursor
  if col < engine.currentLine.length then
    engine.cut col (wordsEnd engine.buffer line (count - 1)
      (engine.currentLine.runEnd col))
  else engine

def deleteInside? (engine : Engine) (quote : Char) : Option Engine :=
  (engine.currentLine.quotePair? engine.cursor.col quote).map
    fun (opening, closing) =>
    (engine.cut (opening + 1) closing).atColumn (opening + 1)

/--
Joins up to `count` lines to a line, and gives the column of the last joint.
-/
def joinTimes (line : Nat) : Nat → Buffer → Option Nat → Buffer × Option Nat
  | 0, buffer, joint => (buffer, joint)
  | count + 1, buffer, joint =>
      match buffer.joinNext? line with
      | some (buffer, joint) => joinTimes line count buffer (some joint)
      | none => (buffer, joint)

def joinLines (engine : Engine) (count : Nat) : Engine :=
  let (buffer, joint) :=
    joinTimes engine.cursor.line (max count 2 - 1) engine.buffer none
  { engine with buffer := buffer }.moveToColumn joint

def pasteLines (engine : Engine) (start : Nat) (lines : List Line)
    (count : Nat) : Engine :=
  let buffer :=
    engine.buffer.insertLines start (List.replicate count lines).flatten
  { engine with buffer := buffer }.moveTo
    ⟨start, (buffer.lineText start).indentation⟩

/-- Inserts copies of a text at a column, and moves to their last character. -/
def pasteText (engine : Engine) (col : Nat) (text : Text)
    (count : Nat) : Engine :=
  let (buffer, stop) :=
    engine.buffer.insertText ⟨engine.cursor.line, col⟩
      (List.replicate count text).flatten
  { engine with buffer := buffer }.moveTo ⟨stop.line, stop.col - 1⟩

def paste (engine : Engine) (behind : Bool) (count : Nat) : Engine :=
  let ⟨line, col⟩ := engine.cursor
  match engine.registers.content? Registers.unnamed with
  | none => engine
  | some (.lines lines) =>
      engine.pasteLines (if behind then line + 1 else line) lines count
  | some (.chars text) =>
      let col := if behind && !engine.currentLine.isEmpty then col + 1 else col
      engine.pasteText col text count

def replaceChar (engine : Engine) (c : Char) : Engine :=
  match engine.buffer.deleteChar? engine.cursor with
  | some buffer =>
      { engine with buffer := (buffer.insertChar? engine.cursor c).getD buffer }
  | none => engine

/-- Starts a line of its own before a line, to insert into. -/
def openLine (engine : Engine) (line : Nat) : Engine :=
  { engine with
    buffer := engine.buffer.insertLines line [[]]
    cursor := ⟨line, 0⟩
    mode := .insert }

end ModalEditing.Engine
