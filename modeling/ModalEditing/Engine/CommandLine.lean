import ModalEditing.Engine.Motion
import ModalEditing.ExCommand
import ModalEditing.Search

namespace ModalEditing.Engine

/-! Searches, and the commands that are typed on the command line. -/

/-- Searches up to `count` times, and stops at a match that is the only one. -/
def searchTimes (buffer : Buffer) (pattern : Text) (direction : Direction) :
    Nat → Position → Option Position
  | 0, p => some p
  | count + 1, p =>
      match buffer.search? p pattern direction with
      | none => none
      | some found =>
          if found = p then some p
          else searchTimes buffer pattern direction count found

def repeatSearch (engine : Engine) (direction : Direction)
    (count : Nat) : Engine :=
  match engine.lastSearch with
  | none => engine.say .nothingSearched
  | some pattern =>
      match searchTimes engine.buffer pattern direction count engine.cursor with
      | some p => engine.moveTo p
      | none => engine.say (.notFound pattern)

def searchWord (engine : Engine) : Engine :=
  match engine.currentLine.wordAt? engine.cursor.col with
  | some word => { engine with lastSearch := some word }.repeatSearch .forward 1
  | none => engine

/-- Searches for a typed pattern, or for the last one again if none is typed. -/
def searchTyped (engine : Engine) (typed : Text) : Engine :=
  let engine :=
    if typed.isEmpty then engine else { engine with lastSearch := some typed }
  engine.repeatSearch .forward 1

def changedLines (substitution : Substitution) (buffer : Buffer) (line : Nat) :
    List (Option Line) :=
  buffer.lines.zipIdx.map fun (text, number) =>
    if substitution.allLines || number == line then substitution.onLine? text
    else none

def substitute (engine : Engine) (substitution : Substitution) : Engine :=
  let changed := changedLines substitution engine.buffer engine.cursor.line
  if changed.any (·.isSome) then
    { engine with
      buffer :=
        ⟨List.zipWith (fun line change =>
          change.getD line) engine.buffer.lines changed⟩ }
  else engine.say (.notFound substitution.pattern)

def execute (engine : Engine) : ExCommand → Engine
  | .write => engine.say .written
  | .quit => engine.say .hasQuit
  | .writeQuit => engine.say .writtenAndQuit
  | .goToLine number => engine.moveTo ⟨number - 1, 0⟩
  | .substitute substitution => engine.substitute substitution
  | .unknown text => engine.say (.unknownCommand text)

/-- Runs a command line, which starts with the key that opened it. -/
def runCommandLine (engine : Engine) : Text → Engine
  | ':' :: typed =>
      match ExCommand.ofText? typed with
      | some command => engine.execute command
      | none => engine
  | '/' :: typed => engine.searchTyped typed
  | _ => engine

end ModalEditing.Engine
