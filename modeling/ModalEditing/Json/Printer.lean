import ModalEditing.Json.Basic

namespace ModalEditing.Json

/-!
Writing JSON, either in one line without blanks, or with a line for every value
and two blanks for each level. Strings escape only what they have to.
-/

def hexDigit (n : Nat) : Char :=
  (Nat.toDigits 16 n).headD '0'

def escape (c : Char) : Text :=
  match c with
  | '"' => ['\\', '"']
  | '\\' => ['\\', '\\']
  | '\x08' => ['\\', 'b']
  | '\x0c' => ['\\', 'f']
  | '\n' => ['\\', 'n']
  | '\r' => ['\\', 'r']
  | '\t' => ['\\', 't']
  | c =>
      if c < ' ' then
        ['\\', 'u', '0', '0', hexDigit (c.toNat / 16), hexDigit (c.toNat % 16)]
      else [c]

def quote (text : Text) : Text :=
  '"' :: text.flatMap escape ++ ['"']

mutual
def compact : Json → Text
  | null => "null"
  | bool value => if value then "true" else "false"
  | number text => text
  | string text => quote text
  | array items => '[' :: [','].intercalate (compactItems items) ++ [']']
  | object fields =>
      '\x7b' :: [','].intercalate (compactFields fields) ++ ['\x7d']

def compactItems : List Json → List Text
  | [] => []
  | item :: rest => compact item :: compactItems rest

def compactFields : List (Text × Json) → List Text
  | [] => []
  | (name, value) :: rest =>
      (quote name ++ ':' :: compact value) :: compactFields rest
end

def indent (level : Nat) : Text :=
  '\n' :: List.replicate (2 * level) ' '

def block (opening closing : Char) (level : Nat) (values : List Text) : Text :=
  if values.isEmpty then [opening, closing]
  else
    opening :: indent (level + 1) ++
      (',' :: indent (level + 1)).intercalate values ++
      indent level ++ [closing]

mutual
def prettyAt (level : Nat) : Json → Text
  | null => "null"
  | bool value => if value then "true" else "false"
  | number text => text
  | string text => quote text
  | array items => block '[' ']' level (prettyItems (level + 1) items)
  | object fields => block '\x7b' '\x7d' level (prettyFields (level + 1) fields)

def prettyItems (level : Nat) : List Json → List Text
  | [] => []
  | item :: rest => prettyAt level item :: prettyItems level rest

def prettyFields (level : Nat) : List (Text × Json) → List Text
  | [] => []
  | (name, value) :: rest =>
      (quote name ++ ':' :: ' ' :: prettyAt level value) ::
        prettyFields level rest
end

def pretty (json : Json) : Text :=
  json.prettyAt 0

end ModalEditing.Json
