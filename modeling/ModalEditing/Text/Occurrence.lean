import ModalEditing.Text.Basic

namespace ModalEditing.Text

/-- Splits at the occurrences of `pattern` met after `skip` more characters. -/
def piecesFrom (pattern : Text) : Nat → Text → List Text
  | _, [] => [[]]
  | skip + 1, _ :: rest => piecesFrom pattern skip rest
  | 0, c :: rest =>
      if pattern.isPrefixOf (c :: rest) then
        [] :: piecesFrom pattern (pattern.length - 1) rest
      else (piecesFrom pattern 0 rest).modifyHead (c :: ·)

/--
What lies around the occurrences of a nonempty pattern, taken from the left and
never overlapping.
-/
def pieces (pattern text : Text) : List Text :=
  piecesFrom pattern 0 text

def replaceAll (pattern replacement text : Text) : Text :=
  replacement.intercalate (pieces pattern text)

def replaceFirst (pattern replacement text : Text) : Text :=
  match pieces pattern text with
  | first :: second :: rest =>
      first ++ replacement ++ pattern.intercalate (second :: rest)
  | _ => text

def occursIn (pattern text : Text) : Bool :=
  1 < (pieces pattern text).length

@[simp] theorem pieces_nil (pattern : Text) : pieces pattern [] = [[]] := rfl

end ModalEditing.Text
