import ModalEditing.Text.Basic
import ModalEditing.Unicode.Printable

namespace ModalEditing.Text

open Unicode

/-!
Text in double quotes, for messages. What would not show as itself is written as
an escape, so that a message stays on one line and every character of it can be
told.
-/

def escape (c : Char) : Text :=
  match c with
  | '"' => ['\\', '"']
  | '\\' => ['\\', '\\']
  | '\t' => ['\\', 't']
  | '\r' => ['\\', 'r']
  | '\n' => ['\\', 'n']
  | '\x00' => ['\\', '0']
  | c =>
      if isPrintable c then [c]
      else ['\\', 'u', '\x7b'] ++ Nat.toDigits 16 c.toNat ++ ['\x7d']

def quoted (text : Text) : Text :=
  '"' :: text.flatMap escape ++ ['"']

end ModalEditing.Text
