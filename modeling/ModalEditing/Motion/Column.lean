import ModalEditing.Motion.CharClass

namespace ModalEditing.Line

open Unicode

/-! Places on a single line. -/

/-- The column behind the run of one class that a column is in. -/
def runEnd (line : Line) (col : Nat) : Nat :=
  col + runLength (line.drop col)

/--
The column of the first character that is not blank, or the start of a blank
line.
-/
def indentation (line : Line) : Nat :=
  (line.findIdx? (!isBlank ·)).getD 0

def columnsOf (target : Char) (line : Line) : List Nat :=
  (line.zipIdx.filter (·.1 == target)).map (·.2)

/-- The column of the `count`-th `target` after a column. -/
def findForward? (line : Line) (col : Nat) (target : Char)
    (count : Nat) : Option Nat :=
  ((columnsOf target line).filter (col < ·))[count - 1]?

def findBackward? (line : Line) (col : Nat) (target : Char)
    (count : Nat) : Option Nat :=
  ((columnsOf target line).filter (· < col)).reverse[count - 1]?

/-- The word that a column is in, or else the next one on the line. -/
def wordAt? (line : Line) (col : Nat) : Option Text :=
  let rest := (line.drop col).dropWhile (!isWordChar ·)
  if rest.isEmpty then none
  else
    let before := line.take (line.length - rest.length)
    some ((before.reverse.takeWhile isWordChar).reverse ++
      rest.takeWhile isWordChar)

/-- The nearest columns of a list on both sides of a column. -/
def around? (columns : List Nat) (col : Nat) : Option (Nat × Nat) := do
  return (← (columns.filter (· < col)).getLast?, ← columns.find? (col < ·))

/--
The quotes around a column. A column that holds a quote opens or closes a pair
by the number of quotes before it; a column that has no pair around it takes the
first pair of the line.
-/
def quotePair? (text : Line) (col : Nat) (quote : Char) : Option (Nat × Nat) :=
  let columns := columnsOf quote text
  let col := min col (text.length - 1)
  let before := columns.filter (· < col)
  let enclosing :=
    if text[col]? = some quote then
      if before.length % 2 = 1 then before.getLast?.map (·, col)
      else (columns.find? (col < ·)).map (col, ·)
    else around? columns col
  enclosing <|>
    match columns with
    | first :: second :: _ => some (first, second)
    | _ => none

@[simp] theorem indentation_nil : indentation [] = 0 := rfl

@[simp] theorem columnsOf_nil (target : Char) : columnsOf target [] = [] := rfl

end ModalEditing.Line
