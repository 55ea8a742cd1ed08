import ModalEditing.Text.Numeral

namespace ModalEditing

/--
A JSON document. Numbers keep the text they are written with, and objects keep
their fields in order, repeated names included.
-/
inductive Json where
  | null
  | bool (value : Bool)
  | number (text : Text)
  | string (text : Text)
  | array (items : List Json)
  | object (fields : List (Text × Json))

namespace Json

def nat (n : Nat) : Json :=
  number (Text.decimal n)

def texts (items : List Text) : Json :=
  array (items.map string)

def ofOption (encode : α → Json) : Option α → Json
  | some value => encode value
  | none => null

/-- The value of a field; the last one counts if the name is repeated. -/
def field? (name : Text) : Json → Option Json
  | object fields => fields.reverse.lookup name
  | _ => none

def text? : Json → Option Text
  | string text => some text
  | _ => none

def bool? : Json → Option Bool
  | bool value => some value
  | _ => none

def items? : Json → Option (List Json)
  | array items => some items
  | _ => none

def word? : Json → Option Nat
  | number text => (Text.natural? text).filter (· ≤ Text.maxWord)
  | _ => none

def char? : Json → Option Char
  | string [c] => some c
  | _ => none

def list? (decode : Json → Option α) (json : Json) : Option (List α) := do
  (← json.items?).mapM decode

/--
The values of a record's fields in their order: an object has at least these
fields, and an array has exactly their values.
-/
def record? (names : List Text) : Json → Option (List (Option Json))
  | object fields => some (names.map fun name => (object fields).field? name)
  | array items =>
      if items.length = names.length then some (items.map some) else none
  | _ => none

end Json

end ModalEditing
