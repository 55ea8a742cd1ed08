import ModalEditing.Json.Basic
import ModalEditing.Key.Basic

namespace ModalEditing

/-! Key events as JSON documents. -/

/--
A choice among named variants: a name, or an object with the name as its only
field and what belongs to the variant as its value.
-/
def Json.variant? : Json → Option (Text × Json)
  | .string name => some (name, .null)
  | .object ((name, value) :: rest) =>
      if rest.all (·.1 == name) then
        some (name, ((rest.map (·.2)).getLast?).getD value)
      else none
  | _ => none

def Json.unitVariant? (variants : List (Text × α)) (json : Json) : Option α :=
  match json.variant? with
  | some (name, .null) => variants.lookup name
  | _ => none

namespace Key

def variants : List (Text × Key) := [
  ("Escape", escape), ("Enter", enter), ("Backspace", backspace),
  ("Delete", delete), ("Tab", tab), ("Left", left), ("Right", right),
  ("Up", up), ("Down", down), ("Home", home), ("End", toEnd),
  ("Unidentified", unidentified)]

def toJson : Key → Json
  | char c => .object [("Char", .string [c])]
  | escape => .string "Escape"
  | enter => .string "Enter"
  | backspace => .string "Backspace"
  | delete => .string "Delete"
  | tab => .string "Tab"
  | left => .string "Left"
  | right => .string "Right"
  | up => .string "Up"
  | down => .string "Down"
  | home => .string "Home"
  | toEnd => .string "End"
  | unidentified => .string "Unidentified"

def ofJson? (json : Json) : Option Key :=
  match json.variant? with
  | some (['C', 'h', 'a', 'r'], value) => value.char?.map char
  | _ => json.unitVariant? variants

@[simp] theorem ofJson?_toJson (key : Key) : ofJson? key.toJson = some key := by
  cases key <;> rfl

end Key

namespace Modifiers

def toJson (modifiers : Modifiers) : Json :=
  .object [("bits", .nat modifiers.bits.toNat)]

def ofJson? (json : Json) : Option Modifiers := do
  let [some bits] ← json.record? ["bits"] | Option.none
  let bits ← bits.word?
  if bits < 256 then return ⟨bits.toUInt8⟩ else Option.none

end Modifiers

namespace KeyEvent

def toJson (event : KeyEvent) : Json :=
  .object [("key", event.key.toJson), ("modifiers", event.modifiers.toJson)]

def ofJson? (json : Json) : Option KeyEvent := do
  let [some key, some modifiers] ← json.record? ["key", "modifiers"] | none
  return ⟨← Key.ofJson? key, ← Modifiers.ofJson? modifiers, false⟩

end KeyEvent

end ModalEditing
