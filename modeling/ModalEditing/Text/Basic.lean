import ModalEditing.Unicode.Blank

namespace ModalEditing

/-- Any sequence of characters, line breaks included. -/
abbrev Text := List Char

abbrev Line := List Char

scoped instance : Coe String Text := ⟨String.toList⟩

namespace Text

open Unicode

/-!
Text and its lines. Joining puts one line break between neighbours and splitting
cuts at every line break; reading stored content differs from splitting in that
a line break ends a line, and takes a carriage return before it along.
-/

def joinLines (lines : List Line) : Text :=
  ['\n'].intercalate lines

def splitLines (text : Text) : List Line :=
  text.splitOn '\n'

@[simp] theorem joinLines_nil : joinLines [] = [] := rfl

@[simp] theorem joinLines_singleton (line : Line) :
    joinLines [line] = line := by
  simp [joinLines, List.intercalate]

@[simp] theorem joinLines_cons_cons (line next : Line) (rest : List Line) :
    joinLines (line :: next :: rest) =
      line ++ '\n' :: joinLines (next :: rest) := by
  simp [joinLines, List.intercalate]

@[simp] theorem splitLines_nil : splitLines [] = [[]] :=
  List.splitOn_nil '\n'

@[simp] theorem joinLines_splitLines (text : Text) :
    joinLines (splitLines text) = text :=
  List.intercalate_splitOn '\n'

theorem splitLines_joinLines {lines : List Line} (nonempty : lines ≠ [])
    (unbroken : ∀ line ∈ lines, '\n' ∉ line) :
    splitLines (joinLines lines) = lines :=
  List.splitOn_intercalate '\n' unbroken nonempty

def dropReturn (line : Line) : Line :=
  if line.getLast? = some '\r' then line.dropLast else line

/-- The lines of stored content, where a line break ends a line. -/
def contentLines (text : Text) : List Line :=
  let pieces := splitLines text
  pieces.dropLast.map dropReturn ++ pieces.getLast?.toList.filter (!·.isEmpty)

@[simp] theorem contentLines_nil : contentLines [] = [] := rfl

def trimStart (text : Text) : Text :=
  text.dropWhile isBlank

def trimEnd (text : Text) : Text :=
  (text.reverse.dropWhile isBlank).reverse

def trim (text : Text) : Text :=
  trimEnd (trimStart text)

@[simp] theorem trimStart_nil : trimStart [] = [] := rfl

@[simp] theorem trim_nil : trim [] = [] := rfl

/-- The characters before the first blank after any leading blanks. -/
def firstWord (text : Text) : Text :=
  (trimStart text).takeWhile (!isBlank ·)

end Text

end ModalEditing
