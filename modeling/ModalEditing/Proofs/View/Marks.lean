import ModalEditing.View

namespace ModalEditing

/--
A piece of a rendered line: a brace of the selection, a character of the line,
or the cursor.
-/
inductive Mark where
  | opening
  | closing
  | char (c : Char)
  | cursorAt (c : Char)
  | cursorBehind
  deriving DecidableEq, Repr

namespace Mark

def text : Mark → Text
  | opening => ['\x7b']
  | closing => ['\x7d']
  | char c => [c]
  | cursorAt c => ['[', c, ']']
  | cursorBehind => ['[', ' ', ']']

/--
The characters of the line between braces; `inside` tells whether a brace is
open.
-/
def highlighted (inside : Bool) : List Mark → Text
  | [] => []
  | opening :: rest => highlighted true rest
  | closing :: rest => highlighted false rest
  | char c :: rest => (if inside then [c] else []) ++ highlighted inside rest
  | cursorAt c :: rest =>
      (if inside then [c] else []) ++ highlighted inside rest
  | cursorBehind :: rest => highlighted inside rest

theorem highlighted_concat_cursorBehind (inside : Bool) (marks : List Mark) :
    highlighted inside (marks ++ [cursorBehind]) =
      highlighted inside marks := by
  induction marks generalizing inside with
  | nil => rfl
  | cons mark rest ih => cases mark <;> simp [highlighted, ih]

end Mark

namespace View

/-!
Rendered lines as lists of marks, which tell the braces and brackets of the view
from those of the line. The marks of a line spell what the view writes for it.
-/

def marks (selected : Nat → Bool) (cursor : Option Nat) (inside : Bool)
    (col : Nat) : Line → List Mark
  | [] => if inside then [.closing] else []
  | c :: rest =>
      (if selected col && !inside then [.opening]
        else if inside && !selected col then [.closing]
        else []) ++
      (if cursor = some col then .cursorAt c else .char c) ::
      marks selected cursor (selected col) (col + 1) rest

def lineMarks (snapshot : Snapshot) (row : Nat) (line : Line) : List Mark :=
  let cursor := cursorOn? snapshot row
  marks (fun col => isSelected snapshot ⟨row, col⟩) cursor false 0 line ++
    (if cursor.any (line.length ≤ ·) then [.cursorBehind] else [])

def highlightedOn (snapshot : Snapshot) (row : Nat) : Text :=
  match snapshot.line? row with
  | some line => Mark.highlighted false (lineMarks snapshot row line)
  | none => []

theorem flatMap_text_marks (selected : Nat → Bool) (cursor : Option Nat)
    (inside : Bool) (col : Nat) (line : Line) :
    (marks selected cursor inside col line).flatMap Mark.text =
      markChars selected cursor inside col line := by
  induction line generalizing inside col with
  | nil => cases inside <;> rfl
  | cons c rest ih =>
      simp only [marks, markChars, List.flatMap_append, List.flatMap_cons, ih,
        List.append_assoc]
      congr 1
      · split
        · rfl
        · split <;> rfl
      · split <;> rfl

theorem flatMap_text_lineMarks (snapshot : Snapshot) (row : Nat) (line : Line) :
    (lineMarks snapshot row line).flatMap Mark.text =
      renderLine snapshot row line := by
  unfold lineMarks renderLine
  dsimp only
  rw [List.flatMap_append, flatMap_text_marks]
  congr 1
  split <;> rfl

/-! The highlighted characters are those in the selected columns. -/

/--
The characters of a line in some of its columns, the first of which is column
`col`.
-/
def charsAt (selected : Nat → Bool) (col : Nat) : Line → Line
  | [] => []
  | c :: rest =>
      (if selected col then [c] else []) ++ charsAt selected (col + 1) rest

theorem highlighted_marks (selected : Nat → Bool) (cursor : Option Nat)
    (inside : Bool) (col : Nat) (line : Line) :
    Mark.highlighted inside (marks selected cursor inside col line) =
      charsAt selected col line := by
  induction line generalizing inside col with
  | nil => cases inside <;> rfl
  | cons c rest ih =>
      have piece (inside : Bool) (marks : List Mark) :
          Mark.highlighted inside
              ((if cursor = some col then .cursorAt c else .char c) :: marks) =
            (if inside then [c] else []) ++ Mark.highlighted inside marks := by
        split <;> rfl
      rw [marks, charsAt]
      cases selected col <;> cases inside <;> simp [Mark.highlighted, piece, ih]

theorem highlightedOn_of_line? {snapshot : Snapshot} {row : Nat} {line : Line}
    (found : snapshot.line? row = some line) :
    highlightedOn snapshot row =
      charsAt (fun col => isSelected snapshot ⟨row, col⟩) 0 line := by
  simp only [highlightedOn, found, lineMarks]
  split
  · rw [Mark.highlighted_concat_cursorBehind, highlighted_marks]
  · rw [List.append_nil, highlighted_marks]

theorem charsAt_interval {selected : Nat → Bool} {line : Line}
    {col start stop : Nat}
    (interval : ∀ i < line.length,
      (selected (col + i) = true ↔ start ≤ i ∧ i < stop)) :
    charsAt selected col line = (line.take stop).drop start := by
  -- Both bounds count from the column where the rest of the line starts, and so
  -- go down with it.
  induction line generalizing col start stop with
  | nil => simp [charsAt]
  | cons c rest ih =>
      have here : selected col = true ↔ start ≤ 0 ∧ 0 < stop :=
        interval 0 (Nat.zero_lt_succ _)
      have next (i : Nat) (within : i < rest.length) :
          selected (col + 1 + i) = true ↔ start ≤ i + 1 ∧ i + 1 < stop := by
        rw [Nat.add_assoc, Nat.add_comm 1 i]
        exact interval (i + 1) (Nat.succ_lt_succ within)
      cases stop with
      | zero =>
          have off : selected col = false := by simpa using here
          have none := @ih (col + 1) start 0 (by simpa using next)
          simpa [charsAt, off] using none
      | succ stop =>
          cases start with
          | zero =>
              have on : selected col = true := by simpa using here
              have tail := @ih (col + 1) 0 stop (by simpa using next)
              simpa [charsAt, on] using tail
          | succ start =>
              have off : selected col = false := by simpa using here
              have tail := @ih (col + 1) start stop (by simpa using next)
              simpa [charsAt, off] using tail

end View

end ModalEditing
