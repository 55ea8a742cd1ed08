import ModalEditing.Motion.Word
import ModalEditing.Unicode.LetterCase

namespace ModalEditing

open Unicode

/-!
Searching a buffer for a pattern without regard to letter case. A search starts
next to a place and goes once around the text, so that the place itself is
looked at last.
-/

inductive Direction where
  | forward
  | backward
  deriving DecidableEq, Repr

def Direction.reversed : Direction → Direction
  | forward => backward
  | backward => forward

@[simp] theorem Direction.reversed_reversed (direction : Direction) :
    direction.reversed.reversed = direction := by
  cases direction <;> rfl

/-- Characters that differ only in case become equal. -/
def foldCase (text : Text) : Text :=
  text.map toLower

/-- The columns, counted from `start`, at which a pattern begins. -/
def Line.matchesFrom (pattern : Text) (start : Nat) : Line → List Nat
  | [] => []
  | c :: rest =>
      if pattern.isPrefixOf (c :: rest) then
        start :: matchesFrom pattern (start + 1) rest
      else matchesFrom pattern (start + 1) rest

def Line.matchColumns (pattern : Text) (line : Line) : List Nat :=
  matchesFrom pattern 0 (foldCase line)

namespace Buffer

def searchForward? (buffer : Buffer) (p : Position)
    (pattern : Text) : Option Position :=
  let here := Line.matchColumns pattern (buffer.lineText p.line)
  let first (line : Line) := (Line.matchColumns pattern line).head?
  (here.find? (p.col < ·)).map (Position.mk p.line) <|>
    buffer.findFirst? (p.line + 1) buffer.lineCount first <|>
    buffer.findFirst? 0 p.line first <|>
    here.head?.map (Position.mk p.line)

def searchBackward? (buffer : Buffer) (p : Position)
    (pattern : Text) : Option Position :=
  let here := Line.matchColumns pattern (buffer.lineText p.line)
  let last (line : Line) := (Line.matchColumns pattern line).getLast?
  (here.filter (· < p.col)).getLast?.map (Position.mk p.line) <|>
    buffer.findLast? 0 p.line last <|>
    buffer.findLast? (p.line + 1) buffer.lineCount last <|>
    here.getLast?.map (Position.mk p.line)

/-- The place of the next match; a line past the end counts as the last one. -/
def search? (buffer : Buffer) (p : Position) (pattern : Text)
    (direction : Direction) : Option Position :=
  if pattern.isEmpty then none
  else
    let p : Position := ⟨min p.line buffer.lastLine, p.col⟩
    match direction with
    | .forward => buffer.searchForward? p (foldCase pattern)
    | .backward => buffer.searchBackward? p (foldCase pattern)

end Buffer

end ModalEditing
