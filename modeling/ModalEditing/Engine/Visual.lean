import ModalEditing.Engine.Edit

namespace ModalEditing.Engine

/-!
What visual mode does with its selection. Selected characters are stored also
when there are none of them, on an empty line.
-/

def selectedLines (selection : Selection) : Nat :=
  selection.last.line - selection.first.line + 1

def cutSelection (engine : Engine) (selection : Selection) : Engine :=
  let (buffer, text) := engine.buffer.deleteSpan selection.first selection.last
  { engine with buffer := buffer }.store text

def deleteSelection (engine : Engine) (selection : Selection) : Engine :=
  let engine := engine.enter (.normal .none)
  match selection.kind with
  | .chars => (engine.cutSelection selection).moveTo selection.first
  | .lines => engine.deleteLines selection.first.line (selectedLines selection)

def yankSelection (engine : Engine) (selection : Selection) : Engine :=
  let engine := engine.enter (.normal .none)
  let yanked :=
    match selection.kind with
    | .chars =>
        engine.store (engine.buffer.spanText selection.first selection.last)
    | .lines => engine.yankLines selection.first.line (selectedLines selection)
  yanked.moveTo selection.first

def changeSelection (engine : Engine) (selection : Selection) : Engine :=
  match selection.kind with
  | .chars =>
      ((engine.cutSelection selection).enter .insert).moveTo selection.first
  | .lines => engine.changeLines selection.first.line (selectedLines selection)

def swapSelection (engine : Engine) (selection : Selection) : Engine :=
  { engine with
    cursor := selection.anchor
    mode := .visual selection.swapped .none }

end ModalEditing.Engine
