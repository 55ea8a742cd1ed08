import ModalEditing.Duration
import ModalEditing.Json.Reader

namespace ModalEditing

structure Settings where
  waitMilliseconds : Nat
  tabWidth : Nat
  deriving DecidableEq, Repr

inductive SettingsError where
  | notReadable
  | zeroWait
  | wideTab (width : Nat)
  deriving DecidableEq, Repr

def SettingsError.message : SettingsError → Text
  | notReadable => "Invalid config JSON"
  | zeroWait => "Invalid value for prefix_timeout_ms: must be greater than zero"
  | wideTab width =>
      "Invalid value for tab_width: " ++ Text.decimal width ++
        " is larger than 16".toList

namespace Settings

def standard : Settings := ⟨1000, 4⟩

def wait (settings : Settings) : Duration :=
  .ofMilliseconds settings.waitMilliseconds

def fault? (settings : Settings) : Option SettingsError :=
  if settings.waitMilliseconds = 0 then some .zeroWait
  else if 16 < settings.tabWidth then some (.wideTab settings.tabWidth)
  else none

def validate (settings : Settings) : Except SettingsError Settings :=
  match settings.fault? with
  | some error => .error error
  | none => .ok settings

/--
The value of a field, or a standard value; a field may be given once only.
-/
def field? (fields : List (Text × Json)) (name : Text)
    (standard : Nat) : Option Nat :=
  match fields.filter (·.1 == name) with
  | [] => some standard
  | [(_, value)] => value.word?
  | _ => none

/--
Settings in a document: an object with some of the fields, or their first values
in order.
-/
def ofDocument? : Json → Option Settings
  | .object fields => do
      return ⟨← field? fields "prefix_timeout_ms" standard.waitMilliseconds,
        ← field? fields "tab_width" standard.tabWidth⟩
  | .array [] => some standard
  | .array [wait] => do
      return { standard with waitMilliseconds := ← wait.word? }
  | .array [wait, width] => do
      return ⟨← wait.word?, ← width.word?⟩
  | _ => none

def ofJson (text : Text) : Except SettingsError Settings :=
  match Json.read? text >>= ofDocument? with
  | some settings => settings.validate
  | none => .error .notReadable

end Settings

end ModalEditing
