import ModalEditing.Text.Basic
import ModalEditing.Unicode.LetterCase

namespace ModalEditing

open Unicode

/-- A logical key: what was pressed, whatever the layout of the keyboard. -/
inductive Key where
  /-- A printable character, with the shift key already applied. -/
  | char (c : Char)
  | escape
  | enter
  | backspace
  | delete
  | tab
  | left
  | right
  | up
  | down
  | home
  | toEnd
  /-- A modifier by itself, or a key that has no name here. -/
  | unidentified
  deriving DecidableEq, Repr

namespace Key

/-- The names that hosts report for keys, the usual one of each key first. -/
def hostNames : List (Text × Key) := [
  ("Escape", escape), ("Esc", escape),
  ("Enter", enter), ("Return", enter),
  ("Backspace", backspace),
  ("Delete", delete), ("Del", delete),
  ("Tab", tab),
  ("ArrowLeft", left), ("Left", left),
  ("ArrowRight", right), ("Right", right),
  ("ArrowUp", up), ("Up", up),
  ("ArrowDown", down), ("Down", down),
  ("Home", home),
  ("End", toEnd),
  ("Space", char ' '), ("Spacebar", char ' ')]

/-- The key a host reports under a name; a single character names itself. -/
def ofName : Text → Key
  | [c] => char c
  | name => (hostNames.lookup name).getD unidentified

def name : Key → Text
  | char c => [c]
  | escape => "Escape"
  | enter => "Enter"
  | backspace => "Backspace"
  | delete => "Delete"
  | tab => "Tab"
  | left => "ArrowLeft"
  | right => "ArrowRight"
  | up => "ArrowUp"
  | down => "ArrowDown"
  | home => "Home"
  | toEnd => "End"
  | unidentified => "Unidentified"

def char? : Key → Option Char
  | char c => some c
  | _ => none

def isChar (key : Key) : Bool :=
  key.char?.isSome

@[simp] theorem char?_char (c : Char) : (char c).char? = some c := rfl

@[simp] theorem ofName_name (key : Key) : ofName key.name = key := by
  cases key <;> rfl

end Key

structure Modifiers where
  bits : UInt8
  deriving DecidableEq, Repr

namespace Modifiers

def none : Modifiers := ⟨0⟩

def ctrl : Modifiers := ⟨1⟩

def alt : Modifiers := ⟨2⟩

def shift : Modifiers := ⟨4⟩

def command : Modifiers := ⟨8⟩

def union (first second : Modifiers) : Modifiers :=
  ⟨first.bits ||| second.bits⟩

def contains (modifiers other : Modifiers) : Bool :=
  modifiers.bits &&& other.bits == other.bits

def isCtrl (modifiers : Modifiers) : Bool := modifiers.contains ctrl

def isAlt (modifiers : Modifiers) : Bool := modifiers.contains alt

def isShift (modifiers : Modifiers) : Bool := modifiers.contains shift

def isMeta (modifiers : Modifiers) : Bool := modifiers.contains command

def isEmpty (modifiers : Modifiers) : Bool :=
  modifiers.bits == 0

/--
Shift does not count: it is already part of the character that a key gives.
-/
def hasCommand (modifiers : Modifiers) : Bool :=
  modifiers.isCtrl || modifiers.isAlt || modifiers.isMeta

def ofFlags (shifted controlled : Bool) : Modifiers :=
  union (if shifted then shift else none) (if controlled then ctrl else none)

def names (modifiers : Modifiers) : Text :=
  if modifiers.isEmpty then "none"
  else
    ['+'].intercalate <|
      [(modifiers.isCtrl, ("Ctrl" : Text)), (modifiers.isAlt, "Alt"),
        (modifiers.isShift, "Shift"), (modifiers.isMeta, "Meta")].filterMap
          fun (held, name) => if held then some name else Option.none

end Modifiers

/-- One key press as a host delivers it. -/
structure KeyEvent where
  key : Key
  modifiers : Modifiers
  /--
  Whether the host is asked to leave out what it does for this key by itself.
  -/
  defaultPrevented : Bool
  deriving DecidableEq, Repr

namespace KeyEvent

def plain (key : Key) : KeyEvent :=
  ⟨key, .none, false⟩

/-- A character as a keyboard reports it: a capital comes with the shift key. -/
def char (c : Char) : KeyEvent :=
  ⟨.char c, if isUppercase c then .shift else .none, false⟩

def ctrl (c : Char) : KeyEvent :=
  ⟨.char c, .ctrl, false⟩

def ofName (name : Text) (modifiers : Modifiers) : KeyEvent :=
  ⟨.ofName name, modifiers, false⟩

def ofKey : Key → KeyEvent
  | .char c => char c
  | key => plain key

def preventDefault (event : KeyEvent) : KeyEvent :=
  { event with defaultPrevented := true }

@[simp] theorem key_char (c : Char) : (char c).key = .char c := rfl

@[simp] theorem key_ctrl (c : Char) : (ctrl c).key = .char c := rfl

@[simp] theorem key_plain (key : Key) : (plain key).key = key := rfl

@[simp] theorem key_ofKey (key : Key) : (ofKey key).key = key := by
  cases key <;> rfl

end KeyEvent

end ModalEditing
