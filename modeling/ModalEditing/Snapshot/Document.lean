import ModalEditing.Key.Document
import ModalEditing.Snapshot

namespace ModalEditing

/-! Snapshots as JSON documents. -/

namespace Position

def toJson (p : Position) : Json :=
  .object [("line", .nat p.line), ("col", .nat p.col)]

def ofJson? (json : Json) : Option Position := do
  let [some line, some col] ← json.record? ["line", "col"] | none
  return ⟨← line.word?, ← col.word?⟩

end Position

namespace SelectionKind

def toJson : SelectionKind → Json
  | chars => .string "Char"
  | lines => .string "Line"

def ofJson? (json : Json) : Option SelectionKind :=
  json.unitVariant? [("Char", chars), ("Line", lines)]

end SelectionKind

namespace Selection

def toJson (selection : Selection) : Json :=
  .object [
    ("start", selection.anchor.toJson),
    ("end", selection.head.toJson),
    ("kind", selection.kind.toJson)]

def ofJson? (json : Json) : Option Selection := do
  let [some anchor, some head, some kind] ← json.record?
    ["start", "end", "kind"] | none
  return ⟨← Position.ofJson? anchor, ← Position.ofJson? head,
    ← SelectionKind.ofJson? kind⟩

end Selection

namespace ModeKind

def toJson : ModeKind → Json
  | normal => .string "Normal"
  | insert => .string "Insert"
  | visual => .string "Visual"
  | command => .string "Command"

def ofJson? (json : Json) : Option ModeKind :=
  json.unitVariant?
    [("Normal", normal), ("Insert", insert), ("Visual", visual),
      ("Command", command)]

end ModeKind

namespace Registers

def toJson (registers : Registers) : Json :=
  .object (registers.slots.map fun (name, text) => ([name], .string text))

def storeField? (registers : Registers) : Text × Json → Option Registers
  | ([name], .string text) => some (registers.store name text)
  | _ => none

def ofJson? : Json → Option Registers
  | .object fields => fields.foldlM storeField? empty
  | _ => none

end Registers

namespace Snapshot

def toJson (snapshot : Snapshot) : Json :=
  .object [
    ("mode", snapshot.mode.toJson),
    ("cursor", snapshot.cursor.toJson),
    ("lines", .texts snapshot.lines),
    ("selection", .ofOption Selection.toJson snapshot.selection),
    ("command_buffer", .string snapshot.commandArea),
    ("registers", snapshot.registers.toJson),
    ("last_search", .ofOption .string snapshot.lastSearch),
    ("message", .string snapshot.message)]

def optional? (decode : Json → Option α) : Option Json → Option (Option α)
  | none | some .null => some none
  | some json => (decode json).map some

def ofJson? (json : Json) : Option Snapshot := do
  let [mode, cursor, lines, selection, area, registers, search, message] ←
    json.record? ["mode", "cursor", "lines", "selection", "command_buffer",
      "registers", "last_search", "message"] | none
  return {
    mode := ← ModeKind.ofJson? (← mode)
    cursor := ← Position.ofJson? (← cursor)
    lines := ← (← lines).list? Json.text?
    selection := ← optional? Selection.ofJson? selection
    commandArea := ← (← area).text?
    registers := ← Registers.ofJson? (← registers)
    lastSearch := ← optional? Json.text? search
    message := ← (← message).text? }

end Snapshot

end ModalEditing
