import ModalEditing.Buffer.Basic
import ModalEditing.Motion.CharClass

namespace ModalEditing

open Unicode

/-!
Motions by words. A word is a run of characters of one class other than blanks,
and it ends with its line. Going forward and backward to the start of a word, an
empty line counts as a word.
-/

namespace Line

/--
How many characters to pass from the start of a line to get behind the word
there.
-/
def wordLength (line : Line) : Nat :=
  if line.head?.all isBlank then 0 else runLength line

/--
Where a motion that comes from above stops: at the first word or on an empty
line.
-/
def firstStart? (line : Line) : Option Nat :=
  if line.isEmpty then some 0 else line.findIdx? (!isBlank ·)

def lastWord? (line : Line) : Option Nat :=
  match line.reverse.dropWhile isBlank with
  | [] => none
  | c :: rest => some ((c :: rest).length - runLength (c :: rest))

/--
Where a motion that comes from below stops: at the last word or on an empty
line.
-/
def lastStart? (line : Line) : Option Nat :=
  if line.isEmpty then some 0 else lastWord? line

def firstEnd? (line : Line) : Option Nat :=
  match line.dropWhile isBlank with
  | [] => none
  | c :: rest =>
      some (line.length - (c :: rest).length + runLength (c :: rest) - 1)

end Line

namespace Buffer

def numberedLines (buffer : Buffer) (start stop : Nat) : List (Line × Nat) :=
  ((buffer.lines.take stop).drop start).zipIdx start

/--
The first place that `find` gives on the lines from `start` to before `stop`.
-/
def findFirst? (buffer : Buffer) (start stop : Nat) (find : Line → Option Nat) :
    Option Position :=
  (buffer.numberedLines start stop).findSome? fun (line, number) =>
    (find line).map (Position.mk number)

/--
The last line from `start` to before `stop` for which `find` gives a place, and
the place.
-/
def findLast? (buffer : Buffer) (start stop : Nat) (find : Line → Option Nat) :
    Option Position :=
  (buffer.numberedLines start stop).reverse.findSome? fun (line, number) =>
    (find line).map (Position.mk number)

/-- The place behind the last character that lies at or after `p`. -/
def endFrom (buffer : Buffer) (p : Position) : Position :=
  if p.line < buffer.lastLine then
    ⟨buffer.lastLine, buffer.lineLength buffer.lastLine⟩
  else ⟨p.line, max p.col (buffer.lineLength p.line)⟩

def wordForward (buffer : Buffer) (p : Position) : Position :=
  let rest := (buffer.lineText p.line).drop p.col
  let behind := p.col + Line.wordLength rest
  match ((buffer.lineText p.line).drop behind).findIdx? (!isBlank ·) with
  | some n => ⟨p.line, behind + n⟩
  | none =>
      (buffer.findFirst? (p.line + 1) buffer.lineCount Line.firstStart?).getD
        (buffer.endFrom p)

def wordBackward (buffer : Buffer) (p : Position) : Position :=
  match Line.lastWord? ((buffer.lineText p.line).take p.col) with
  | some col => ⟨p.line, col⟩
  | none =>
      if buffer.lineCount < p.line then ⟨p.line - 1, 0⟩
      else (buffer.findLast? 0 p.line Line.lastStart?).getD .origin

/-- The next last character of a word, or the place itself if there is none. -/
def wordEnd (buffer : Buffer) (p : Position) : Position :=
  match Line.firstEnd? ((buffer.lineText p.line).drop (p.col + 1)) with
  | some n => ⟨p.line, p.col + 1 + n⟩
  | none =>
      (buffer.findFirst? (p.line + 1) buffer.lineCount Line.firstEnd?).getD p

end Buffer

/-- Applies a motion up to `count` times, and stops where it does not move. -/
def repeatMotion (step : Position → Position) : Nat → Position → Position
  | 0, p => p
  | count + 1, p => if step p = p then p else repeatMotion step count (step p)

@[simp] theorem repeatMotion_zero (step : Position → Position) (p : Position) :
    repeatMotion step 0 p = p := rfl

end ModalEditing
