import ModalEditing.Proofs.Engine.CursorBounds
import ModalEditing.Proofs.View.Marks

namespace ModalEditing

namespace Mark

def char? : Mark → Option Char
  | char c => some c
  | cursorAt c => some c
  | _ => none

def isCursor : Mark → Bool
  | opening | closing | char _ => false
  | cursorAt _ | cursorBehind => true

/--
Puts a brace before some of the marks and one behind them, unless they are none.
-/
def braced (first stop : Nat) (marks : List Mark) : List Mark :=
  if first < stop then
    marks.take first ++
      .opening :: ((marks.take stop).drop first ++ .closing :: marks.drop stop)
  else marks

theorem braced_of_le {first stop : Nat} (none : stop ≤ first)
    (marks : List Mark) : braced first stop marks = marks :=
  if_neg (Nat.not_lt_of_le none)

theorem braced_cons_succ (first stop : Nat) (mark : Mark) (rest : List Mark) :
    braced (first + 1) (stop + 1) (mark :: rest) =
      mark :: braced first stop rest := by
  simp only [braced, Nat.add_lt_add_iff_right, List.take_succ_cons,
    List.drop_succ_cons]
  split
  · rfl
  · rfl

theorem filter_braced {keep : Mark → Bool} (opened : keep .opening = false)
    (closed : keep .closing = false) (first stop : Nat) (marks : List Mark) :
    (braced first stop marks).filter keep = marks.filter keep := by
  unfold braced
  split
  · rename_i apart
    have front : marks.take first = (marks.take stop).take first := by
      rw [List.take_take, Nat.min_eq_left (Nat.le_of_lt apart)]
    have whole :
        marks.take first ++ ((marks.take stop).drop first ++ marks.drop stop) =
          marks := by
      rw [front, ← List.append_assoc, List.take_append_drop,
        List.take_append_drop]
    conv_rhs => rw [← whole]
    simp [opened, closed]
  · rfl

theorem filterMap_char?_braced (first stop : Nat) (marks : List Mark) :
    (braced first stop marks).filterMap char? = marks.filterMap char? := by
  have kept (marks : List Mark) :
      marks.filterMap char? =
        (marks.filter (char? · |>.isSome)).filterMap char? := by
    rw [List.filterMap_filter]
    refine congrArg (List.filterMap · marks) (funext fun mark => ?_)
    cases mark <;> rfl
  rw [kept, filter_braced rfl rfl, ← kept]

theorem countP_isCursor_braced (first stop : Nat) (marks : List Mark) :
    (braced first stop marks).countP isCursor = marks.countP isCursor := by
  rw [List.countP_eq_length_filter, List.countP_eq_length_filter,
    filter_braced rfl rfl]

end Mark

namespace Selection

variable {selection : Selection}

/-- Whether a selection holds a place, whichever of its ends comes first. -/
def Covers (selection : Selection) (p : Position) : Prop :=
  match selection.kind with
  | .chars =>
      selection.anchor ≤ p ∧ p ≤ selection.head ∨
        selection.head ≤ p ∧ p ≤ selection.anchor
  | .lines =>
      selection.anchor.line ≤ p.line ∧ p.line ≤ selection.head.line ∨
        selection.head.line ≤ p.line ∧ p.line ≤ selection.anchor.line

theorem covers_of_chars (chars : selection.kind = .chars) (p : Position) :
    selection.Covers p ↔ selection.first ≤ p ∧ p ≤ selection.last := by
  simp only [Covers, chars, first, last]
  by_cases down : selection.anchor ≤ selection.head
  · simp only [if_pos down]
    simp only [Position.le_def] at *
    omega
  · simp only [if_neg down]
    simp only [Position.le_def] at *
    omega

theorem covers_of_lines (lines : selection.kind = .lines) (p : Position) :
    selection.Covers p ↔
      selection.first.line ≤ p.line ∧ p.line ≤ selection.last.line := by
  simp only [Covers, lines, first, last]
  by_cases down : selection.anchor ≤ selection.head
  · simp only [if_pos down]
    rw [Position.le_def] at down
    omega
  · simp only [if_neg down]
    rw [Position.le_def] at down
    omega

end Selection

namespace View

open Mark

variable {snapshot : Snapshot} {selected : Nat → Bool} {cursor : Option Nat}
  {line : Line} {col row first stop : Nat}

/-!
The marks of a row: its characters and the cursor, with the selected ones
between braces.
-/

/--
The characters of a line from column `col` on, the one at the cursor marked.
-/
def cells (cursor : Option Nat) (col : Nat) : Line → List Mark
  | [] => []
  | c :: rest =>
      (if cursor = some col then .cursorAt c else .char c) ::
        cells cursor (col + 1) rest

theorem filterMap_char?_cells (cursor : Option Nat) (col : Nat) (line : Line) :
    (cells cursor col line).filterMap char? = line := by
  induction line generalizing col with
  | nil => rfl
  | cons c rest ih =>
      rw [cells, List.filterMap_cons_some (b := c) (by split <;> rfl), ih]

theorem countP_isCursor_cells_none (col : Nat) (line : Line) :
    (cells none col line).countP isCursor = 0 := by
  induction line generalizing col with
  | nil => rfl
  | cons c rest ih => simpa [cells, isCursor] using ih (col + 1)

theorem countP_isCursor_cells_some (place col : Nat) (line : Line) :
    (cells (some place) col line).countP isCursor =
      if col ≤ place ∧ place < col + line.length then 1 else 0 := by
  induction line generalizing col with
  | nil => simp [cells]
  | cons c rest ih =>
      rw [cells, List.countP_cons, ih, List.length_cons]
      by_cases here : place = col
      · subst here
        simp [isCursor]
      · have other : some place ≠ some col :=
          fun same => here (Option.some.inj same)
        rw [if_neg other]
        change (if _ then 1 else 0) + 0 = _
        refine if_congr ?_ rfl rfl
        omega

theorem marks_of_unselected
    (none : ∀ i < line.length, selected (col + i) = false) :
    marks selected cursor false col line = cells cursor col line := by
  induction line generalizing col with
  | nil => rfl
  | cons c rest ih =>
      have here : selected col = false := none 0 (Nat.zero_lt_succ _)
      have next := @ih (col + 1) fun i within => by
        rw [Nat.add_assoc, Nat.add_comm 1 i]
        exact none (i + 1) (Nat.succ_lt_succ within)
      simp [marks, cells, here, next]

theorem marks_of_inside (within : stop ≤ line.length)
    (interval : ∀ i < line.length, (selected (col + i) = true ↔ i < stop)) :
    marks selected cursor true col line =
      (cells cursor col line).take stop ++
        .closing :: (cells cursor col line).drop stop := by
  induction line generalizing col stop with
  | nil => simp [marks, cells]
  | cons c rest ih =>
      have here : selected col = true ↔ 0 < stop :=
        interval 0 (Nat.zero_lt_succ _)
      have next (i : Nat) (within : i < rest.length) :
          selected (col + 1 + i) = true ↔ i + 1 < stop := by
        rw [Nat.add_assoc, Nat.add_comm 1 i]
        exact interval (i + 1) (Nat.succ_lt_succ within)
      cases stop with
      | zero =>
          have off : selected col = false := by simpa using here
          have rest :=
            @marks_of_unselected selected cursor rest (col + 1)
              (by simpa using next)
          simp [marks, cells, off, rest]
      | succ stop =>
          have on : selected col = true := by simpa using here
          have rest := ih (Nat.le_of_succ_le_succ within) (by simpa using next)
          simp [marks, cells, on, rest]

theorem marks_eq_braced (ordered : first ≤ stop) (within : stop ≤ line.length)
    (interval : ∀ i < line.length,
      (selected (col + i) = true ↔ first ≤ i ∧ i < stop)) :
    marks selected cursor false col line =
      braced first stop (cells cursor col line) := by
  induction line generalizing col first stop with
  | nil =>
      rw [braced_of_le (Nat.le_trans within (Nat.zero_le first))]
      rfl
  | cons c rest ih =>
      have here : selected col = true ↔ first ≤ 0 ∧ 0 < stop :=
        interval 0 (Nat.zero_lt_succ _)
      have next (i : Nat) (within : i < rest.length) :
          selected (col + 1 + i) = true ↔ first ≤ i + 1 ∧ i + 1 < stop := by
        rw [Nat.add_assoc, Nat.add_comm 1 i]
        exact interval (i + 1) (Nat.succ_lt_succ within)
      cases stop with
      | zero =>
          rw [braced_of_le (Nat.zero_le first)]
          exact marks_of_unselected (by simpa using interval)
      | succ stop =>
          cases first with
          | zero =>
              have on : selected col = true := by simpa using here
              have rest := @marks_of_inside selected cursor rest (col + 1) stop
                (Nat.le_of_succ_le_succ within) (by simpa using next)
              simp [marks, cells, braced, on, rest]
          | succ first =>
              have off : selected col = false := by simpa using here
              have rest :=
                ih (Nat.le_of_succ_le_succ ordered)
                  (Nat.le_of_succ_le_succ within) (by simpa using next)
              simp [marks, cells, braced_cons_succ, off, rest]

theorem isSelected_iff (snapshot : Snapshot) (p : Position) :
    isSelected snapshot p = true ↔
      ∃ selection ∈ snapshot.selection, selection.Covers p := by
  cases shown : snapshot.selection with
  | none => simp [isSelected, shown]
  | some selection =>
      cases kind : selection.kind with
      | chars =>
          simp [isSelected, shown, kind, Selection.covers_of_chars kind]
      | lines =>
          simp [isSelected, shown, kind, Selection.covers_of_lines kind]

/-- The selected columns of a row have no gap. -/
theorem exists_selected_interval (snapshot : Snapshot) (row length : Nat) :
    ∃ first stop, first ≤ stop ∧ stop ≤ length ∧
      ∀ col < length, (isSelected snapshot ⟨row, col⟩ = true ↔
        first ≤ col ∧ col < stop) := by
  cases shown : snapshot.selection with
  | none =>
      refine ⟨0, 0, Nat.le_refl 0, Nat.zero_le length, fun col _ => ?_⟩
      simp [isSelected, shown]
  | some selection =>
      cases kind : selection.kind with
      | lines =>
          by_cases inside : selection.first.line ≤ row ∧
            row ≤ selection.last.line
          · refine ⟨0, length, Nat.zero_le length, Nat.le_refl length,
              fun col within => ?_⟩
            simp [isSelected, shown, kind, inside, within]
          · refine ⟨0, 0, Nat.le_refl 0, Nat.zero_le length, fun col _ => ?_⟩
            simpa [isSelected, shown, kind] using inside
      | chars =>
          let start := if row < selection.first.line then length
            else if row = selection.first.line then selection.first.col else 0
          let stop := if row < selection.last.line then length
            else if row = selection.last.line then selection.last.col + 1 else 0
          refine ⟨min start length, max (min start length) (min stop length),
            Nat.le_max_left .., by omega, fun col within => ?_⟩
          have lower :
              selection.first ≤ ⟨row, col⟩ ↔ min start length ≤ col := by
            simp only [start, Position.le_def]
            split
            · omega
            · split <;> omega
          have upper :
              (⟨row, col⟩ : Position) ≤ selection.last ↔
                col < min stop length := by
            simp only [stop, Position.le_def]
            split
            · omega
            · split <;> omega
          simp only [isSelected, shown, kind, Bool.and_eq_true,
            decide_eq_true_eq, lower, upper]
          omega

theorem any_cursorOn?_iff (snapshot : Snapshot) (row length : Nat) :
    (cursorOn? snapshot row).any (length ≤ ·) = true ↔
      row = snapshot.cursor.line ∧ length ≤ snapshot.cursor.col := by
  unfold cursorOn?
  split
  · rename_i here
    simp [here]
  · rename_i other
    simp [other]

theorem exists_lineMarks_eq (snapshot : Snapshot) (row : Nat) (line : Line) :
    ∃ first stop, first ≤ stop ∧ stop ≤ line.length ∧
      (∀ col < line.length,
        (isSelected snapshot ⟨row, col⟩ = true ↔ first ≤ col ∧ col < stop)) ∧
      lineMarks snapshot row line =
          braced first stop (cells (cursorOn? snapshot row) 0 line) ++
        if row = snapshot.cursor.line ∧ line.length ≤ snapshot.cursor.col then
          [.cursorBehind]
        else [] := by
  obtain ⟨first, stop, ordered, within, interval⟩ :=
    exists_selected_interval snapshot row line.length
  refine ⟨first, stop, ordered, within, interval, ?_⟩
  have braces := @marks_eq_braced (fun col => isSelected snapshot ⟨row, col⟩)
    (cursorOn? snapshot row) line 0 first stop ordered within
    (by simpa using interval)
  simp only [lineMarks, braces, any_cursorOn?_iff]

theorem filterMap_char?_lineMarks (snapshot : Snapshot) (row : Nat)
    (line : Line) : (lineMarks snapshot row line).filterMap char? = line := by
  obtain ⟨first, stop, -, -, -, layout⟩ := exists_lineMarks_eq snapshot row line
  rw [layout, List.filterMap_append, filterMap_char?_braced,
    filterMap_char?_cells]
  split
  · exact List.append_nil line
  · exact List.append_nil line

theorem countP_isCursor_lineMarks (snapshot : Snapshot) (row : Nat)
    (line : Line) :
    (lineMarks snapshot row line).countP isCursor =
      if row = snapshot.cursor.line then 1 else 0 := by
  obtain ⟨first, stop, -, -, -, layout⟩ := exists_lineMarks_eq snapshot row line
  rw [layout, List.countP_append, countP_isCursor_braced]
  by_cases here : row = snapshot.cursor.line
  · rw [cursorOn?, if_pos here, if_pos here, countP_isCursor_cells_some]
    by_cases inside : snapshot.cursor.col < line.length
    · simp [inside, Nat.not_le_of_lt inside]
    · simp [inside, here, Nat.le_of_not_lt inside, isCursor]
  · rw [cursorOn?, if_neg here, if_neg here, if_neg fun both => here both.1,
      countP_isCursor_cells_none]
    rfl

def rows (view : View) (snapshot : Snapshot) : List Text :=
  (List.range' (view.top snapshot.cursor.line) view.height).map
    (renderRow snapshot)

theorem render_eq (view : View) (snapshot : Snapshot) :
    view.render snapshot =
      (view.rows snapshot).flatMap (· ++ ['\n']) ++ renderStatus snapshot := by
  rw [render, rows, List.flatMap_map]

theorem getElem?_rows (view : View) (snapshot : Snapshot) {i : Nat}
    (inside : i < view.height) :
    (view.rows snapshot)[i]? =
      some (renderRow snapshot (view.top snapshot.cursor.line + i)) := by
  rw [rows, List.getElem?_map, List.getElem?_range' inside, Nat.one_mul,
    Option.map_some]

end View

namespace Engine

variable {engine : Engine}

/--
A view with room for a line shows as many rows as it has room for, and then the
status. The rows are the lines of the buffer from the top on, and the cursor's
line is among them. Between the characters of a line there are at most two
braces, around the selected ones, and on the cursor's row, nowhere else, the
place of the cursor.
-/
theorem Reachable.view_shows_window (reachable : Reachable engine) {view : View}
    (room : 1 ≤ view.height) :
    let cursor := engine.cursor
    let top := cursor.line + 1 - view.height
    (top ≤ cursor.line ∧ cursor.line < top + view.height ∧
      cursor.line < engine.buffer.lineCount) ∧
    ∃ rows : List Text, rows.length = view.height ∧
      view.render engine.snapshot =
        rows.flatMap (· ++ ['\n']) ++ View.renderStatus engine.snapshot ∧
      ∀ i < view.height,
        let row := top + i
        (engine.buffer.lineCount ≤ row → rows[i]? = some ['~']) ∧
        ∀ line, engine.buffer.line? row = some line → ∃ first stop marks,
          first ≤ stop ∧ stop ≤ line.length ∧
          (∀ col < line.length,
            ((∃ selection ∈ engine.snapshot.selection,
                selection.Covers ⟨row, col⟩) ↔
              first ≤ col ∧ col < stop)) ∧
          marks =
            Mark.braced first stop
              (View.cells
                (if row = cursor.line then some cursor.col else none) 0 line) ++
            (if row = cursor.line ∧ line.length ≤ cursor.col then
              [.cursorBehind] else []) ∧
          rows[i]? = some (marks.flatMap Mark.text) ∧
          marks.filterMap Mark.char? = line ∧
          marks.countP Mark.isCursor = if row = cursor.line then 1 else 0 := by
  intro cursor top
  have place : view.top cursor.line = top := by
    rw [View.top, Nat.max_eq_left room]
  refine ⟨⟨by omega, by omega, reachable.coherent.cursor.1⟩,
    view.rows engine.snapshot, ?_, view.render_eq engine.snapshot,
    fun i inside => ⟨fun past => ?_, fun line found => ?_⟩⟩
  · rw [View.rows, List.length_map, List.length_range']
  · have missing : engine.snapshot.line? (top + i) = none :=
      List.getElem?_eq_none past
    rw [View.getElem?_rows view _ inside]
    change some (View.renderRow _ (view.top cursor.line + i)) = _
    rw [place, View.renderRow, missing]
  · have found : engine.snapshot.line? (top + i) = some line := found
    obtain ⟨first, stop, ordered, within, interval, layout⟩ :=
      View.exists_lineMarks_eq engine.snapshot (top + i) line
    refine ⟨first, stop, View.lineMarks engine.snapshot (top + i) line, ordered,
      within, fun col short => ?_, layout, ?_,
      View.filterMap_char?_lineMarks .., View.countP_isCursor_lineMarks ..⟩
    · rw [← View.isSelected_iff]
      exact interval col short
    · rw [View.getElem?_rows view _ inside, View.flatMap_text_lineMarks]
      change some (View.renderRow _ (view.top cursor.line + i)) = _
      rw [place, View.renderRow, found]

/--
A selection that starts above the view and ends on a row before its last
character, and one from its last character back to a row in the view.
-/
theorem view_shows_window_down_and_up :
    let down := (ofContent "abc\nde\nfgh").run [.typeScript "lvjj"]
    let up := (ofContent "abc\nde\nfgh").run [.typeScript "jjlvk"]
    let view : View := ⟨2⟩
    (Reachable down ∧ Reachable up ∧ 1 ≤ view.height) ∧
      view.render down.snapshot =
        "\x7bde\x7d\n\x7bf[g]\x7dh\nVISUAL 3:2".toList ∧
      view.render up.snapshot = "abc\nd\x7b[e]\x7d\nVISUAL 2:2".toList ∧
      (∃ rows : List Text, rows.length = 2 ∧
        view.render down.snapshot =
          rows.flatMap (· ++ ['\n']) ++ "VISUAL 3:2".toList ∧
        rows[1]? = some "\x7bf[g]\x7dh".toList) ∧
      ∃ rows : List Text, rows.length = 2 ∧
        view.render up.snapshot =
          rows.flatMap (· ++ ['\n']) ++ "VISUAL 2:2".toList ∧
        rows[1]? = some "d\x7b[e]\x7d".toList := by
  intro down up view
  have room : 1 ≤ view.height := by decide
  have downward : Reachable down := (Reachable.ofContent _).run _
  have upward : Reachable up := (Reachable.ofContent _).run _
  refine ⟨⟨downward, upward, room⟩, by decide +kernel,
    by decide +kernel, ?_, ?_⟩
  · have top : down.cursor.line + 1 - view.height = 1 := by decide +kernel
    have status : View.renderStatus down.snapshot = "VISUAL 3:2".toList := by
      decide +kernel
    obtain ⟨-, rows, count, render, shown⟩ := downward.view_shows_window room
    rw [status] at render
    rw [top] at shown
    refine ⟨rows, count, render, ?_⟩
    obtain ⟨-, shown⟩ := shown 1 (by decide)
    obtain ⟨first, stop, marks, -, -, selected, layout, row, -⟩ :=
      shown "fgh".toList (by decide +kernel)
    simp only [← View.isSelected_iff] at selected
    obtain ⟨start, -⟩ := (selected 0 (by decide)).mp (by decide +kernel)
    obtain ⟨-, through⟩ := (selected 1 (by decide)).mp (by decide +kernel)
    have behind := mt (selected 2 (by decide)).mpr (by decide +kernel)
    obtain rfl : first = 0 := by omega
    obtain rfl : stop = 2 := by omega
    rw [row, layout]
    decide +kernel
  · have top : up.cursor.line + 1 - view.height = 0 := by decide +kernel
    have status : View.renderStatus up.snapshot = "VISUAL 2:2".toList := by
      decide +kernel
    obtain ⟨-, rows, count, render, shown⟩ := upward.view_shows_window room
    rw [status] at render
    rw [top] at shown
    refine ⟨rows, count, render, ?_⟩
    obtain ⟨-, shown⟩ := shown 1 (by decide)
    obtain ⟨first, stop, marks, -, within, selected, layout, row, -⟩ :=
      shown "de".toList (by decide +kernel)
    simp only [← View.isSelected_iff] at selected
    have before := mt (selected 0 (by decide)).mpr (by decide +kernel)
    obtain ⟨start, through⟩ := (selected 1 (by decide)).mp (by decide +kernel)
    obtain rfl : first = 1 := by omega
    obtain rfl : stop = 2 := Nat.le_antisymm within through
    rw [row, layout]
    decide +kernel

end Engine

end ModalEditing
