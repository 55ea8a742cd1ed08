import ModalEditing.Key.Basic

namespace ModalEditing

/-!
Key scripts write a run of keys as text. A printable character stands for
itself, a special key is its name in angle brackets, as in 3dd<Esc>, and <C-x>
is x with the control key.
-/

inductive ScriptError where
  /-- A bracket that is never closed, at this byte. -/
  | unterminated (offset : Nat)
  | unknownKey (name : Text)
  deriving DecidableEq, Repr

def ScriptError.message : ScriptError → Text
  | .unterminated offset =>
      "Unterminated key name starting at offset " ++ Nat.toDigits 10 offset
  | .unknownKey name => "Unknown key name: <" ++ name ++ ['>']

inductive ScriptToken where
  | char (c : Char)
  | named (name : Text)
  | unclosed (offset : Nat)
  deriving DecidableEq, Repr

namespace ScriptToken

/--
A bracket that has been opened, and the name read so far, its last character
first.
-/
structure OpenName where
  start : Nat
  reversed : Text

/--
The tokens of the rest of a script, of which `offset` bytes have been read.
-/
def scan : Option OpenName → Nat → Text → List ScriptToken
  | none, _, [] => []
  | some opened, _, [] => [unclosed opened.start]
  | none, offset, c :: rest =>
      if c = '<' then scan (some ⟨offset, []⟩) (offset + 1) rest
      else char c :: scan none (offset + c.utf8Size) rest
  | some opened, offset, c :: rest =>
      if c = '>' then named opened.reversed.reverse ::
        scan none (offset + 1) rest
      else scan (some { opened with reversed := c :: opened.reversed })
        (offset + c.utf8Size) rest

/--
The keys that scripts name, in lower case; a name may be written in either case.
-/
def keyNames : List (Text × Key) := [
  ("esc", .escape), ("escape", .escape),
  ("cr", .enter), ("enter", .enter), ("return", .enter),
  ("bs", .backspace), ("backspace", .backspace),
  ("del", .delete), ("delete", .delete),
  ("tab", .tab),
  ("left", .left), ("right", .right), ("up", .up), ("down", .down),
  ("home", .home), ("end", .toEnd),
  ("space", .char ' '), ("lt", .char '<')]

def named? : Text → Option KeyEvent
  | ['C', '-', c] | ['c', '-', c] => some (.ctrl c)
  | 'C' :: '-' :: _ | 'c' :: '-' :: _ => none
  | name => (keyNames.lookup (name.map Char.toLower)).map .plain

def event : ScriptToken → Except ScriptError KeyEvent
  | char c => .ok (.char c)
  | named name => ((named? name).map .ok).getD (.error (.unknownKey name))
  | unclosed offset => .error (.unterminated offset)

end ScriptToken

namespace KeyEvent

/-- The events of a key script, or the first error in it. -/
def ofScript (script : Text) : Except ScriptError (List KeyEvent) :=
  (ScriptToken.scan none 0 script).mapM ScriptToken.event

/-- How a script writes a key; a key without a name is left out. -/
def toScript (event : KeyEvent) : Text :=
  match event.key with
  | .char c =>
      if event.modifiers.isCtrl then ['<', 'C', '-', c, '>']
      else if c = '<' then "<lt>"
      else [c]
  | .escape => "<Esc>"
  | .enter => "<CR>"
  | .backspace => "<BS>"
  | .delete => "<Del>"
  | .tab => "<Tab>"
  | .left => "<Left>"
  | .right => "<Right>"
  | .up => "<Up>"
  | .down => "<Down>"
  | .home => "<Home>"
  | .toEnd => "<End>"
  | .unidentified => []

def script (events : List KeyEvent) : Text :=
  events.flatMap toScript

@[simp] theorem ofScript_nil : ofScript [] = .ok [] := rfl

@[simp] theorem script_nil : script [] = [] := rfl

@[simp] theorem script_cons (event : KeyEvent) (rest : List KeyEvent) :
    script (event :: rest) = event.toScript ++ script rest := rfl

end KeyEvent

end ModalEditing
