import ModalEditing.Proofs.Engine.Escape
import ModalEditing.Proofs.Engine.ModePayload
import ModalEditing.Proofs.Engine.WordDeletion

namespace ModalEditing.Engine

variable {engine next : Engine} {event : KeyEvent} {command : KeyCommand}
  {quote : Char} {count opening closing : Nat}

/-! The commands that delete or change what is inside of quotes. -/

theorem Coherent.withKeys_of_inside (coherent : engine.Coherent)
    (read : engine.reading? event = some (.command command count))
    (quoted : command = .deleteInner quote ∨ command = .changeInner quote) :
    engine.mode.withKeys .none = .normal .none := by
  have bare := reading?_bare read
  cases mode : engine.mode with
  | normal keys => rfl
  | visual selection keys =>
      obtain ⟨-, -, motions⟩ := coherent.fits_of_visual mode
      rw [reading?_visual mode bare] at read
      have motion := (motions.inTime engine.now).command (Option.some.inj read)
      rcases quoted with rfl | rfl <;> simp at motion
  | insert => simp [reading?, mode] at read
  | command line => simp [reading?, mode] at read

theorem HasRemoved.lineText_eq {buffer : Buffer} {line start stop : Nat}
    (removed : engine.HasRemoved buffer line start stop)
    (within : line < buffer.lineCount) :
    engine.buffer.lineText line =
      (buffer.lineText line).take start ++
        (buffer.lineText line).drop stop := by
  rw [Buffer.lineText, Buffer.line?, removed.lines,
    List.getElem?_set_self within, Option.getD_some]

theorem allows_behind_opening
    (within : engine.cursor.line < engine.buffer.lineCount)
    (pair : engine.currentLine.quotePair? engine.cursor.col quote =
      some (opening, closing))
    (removed : next.HasRemoved engine.buffer engine.cursor.line
      (opening + 1) closing)
    (kind : ModeKind) :
    next.buffer.Allows kind ⟨engine.cursor.line, opening + 1⟩ := by
  obtain ⟨i, first, second⟩ := Line.neighbours_of_quotePair? pair
  obtain ⟨-, -, ordered⟩ := Line.quotePair?_ordered pair
  have left := Line.columnsOf_without first second
  refine Buffer.allows_of_hasChar (Buffer.hasChar_of_char? (c := quote) ?_) kind
  rw [Buffer.char?, removed.lineText_eq within]
  refine Line.mem_columnsOf.mp
    (left ▸ List.mem_map.mpr ⟨closing, List.mem_of_getElem? second, ?_⟩)
  rw [if_neg (Nat.not_le_of_lt ordered)]
  change closing - (closing - (opening + 1)) = opening + 1
  omega

theorem press_inside_of_none (coherent : engine.Coherent)
    (read : engine.reading? event = some (.command command count))
    (quoted : command = .deleteInner quote ∨ command = .changeInner quote)
    (none : engine.currentLine.quotePair? engine.cursor.col quote = none) :
    (engine.press event).engine = engine.enter (.normal .none) := by
  have nothing :
      (engine.enter (.normal .none)).deleteInside? quote = Option.none := by
    rw [deleteInside?, Option.map_eq_none_iff]
    exact none
  rw [press_of_command read, coherent.withKeys_of_inside read quoted]
  rcases quoted with rfl | rfl
  · simp only [runKeyCommand, nothing]
    rfl
  · simp only [runKeyCommand, nothing]
    rfl

theorem press_inside_of_pair (coherent : engine.Coherent)
    (read : engine.reading? event = some (.command command count))
    (quoted : command = .deleteInner quote ∨ command = .changeInner quote)
    (pair : engine.currentLine.quotePair? engine.cursor.col quote =
      some (opening, closing)) :
    (engine.press event).engine =
      ((engine.cut (opening + 1) closing).atColumn (opening + 1)).enter
        (if command = .deleteInner quote then .normal .none else .insert) := by
  let bare := engine.enter (.normal .none)
  let left := (bare.cut (opening + 1) closing).atColumn (opening + 1)
  have within : engine.cursor.line < engine.buffer.lineCount :=
    coherent.cursor.1
  obtain ⟨-, -, ordered⟩ := Line.quotePair?_ordered pair
  have deleted : bare.deleteInside? quote = some left := by
    rw [deleteInside?, Option.map_eq_some_iff]
    exact ⟨_, pair, rfl⟩
  have cut :
      (bare.cut (opening + 1) closing).HasRemoved bare.buffer bare.cursor.line
        (opening + 1) closing :=
    hasRemoved_cut within ordered
  have removed :
      left.HasRemoved engine.buffer engine.cursor.line (opening + 1) closing :=
    cut.of_eq rfl rfl
  have clamped : left.clampCursor = left :=
    clampCursor_of_allows (allows_behind_opening within pair removed _)
  rw [press_of_command read, coherent.withKeys_of_inside read quoted]
  rcases quoted with rfl | rfl
  · change ((bare.deleteInside? quote).map clampCursor).getD bare = _
    rw [deleted, Option.map_some, Option.getD_some, clamped, if_pos rfl]
    rfl
  · change ((bare.deleteInside? quote).map (enter · .insert)).getD bare = _
    rw [deleted, Option.map_some, Option.getD_some,
      if_neg KeyCommand.noConfusion]
    rfl

/--
A line with two quotes or more has a pair for every column: the neighbours that
the column is between, for a quote the pair that it closes or opens by the
number of quotes before it, and else the first two. What is between the two is
removed and nothing else, no quote is lost, and the cursor is behind the one
that opens. With fewer quotes only the pending keys go.
-/
theorem Reachable.quoted_text_removed (reachable : Reachable engine)
    (read : engine.reading? event = some (.command command count))
    (quoted : command = .deleteInner quote ∨ command = .changeInner quote) :
    let columns (mark : Char) (text : Line) :=
      text.columnsFrom (fun col => text[col]? = some mark) 0
    let next := (engine.press event).engine
    (∀ (text : Line) (col : Nat) (mark : Char),
      let place := min col (text.length - 1)
      ((text.quotePair? col mark).isSome = true ↔
        2 ≤ (columns mark text).length) ∧
      ∀ opening closing, text.quotePair? col mark = some (opening, closing) ↔
        Line.Encloses (columns mark text) place opening closing ∨
          (∀ first second, ¬ Line.Encloses (columns mark text) place
              first second) ∧
            (columns mark text)[0]? = some opening ∧
            (columns mark text)[1]? = some closing) ∧
    (∀ opening closing,
      engine.currentLine.quotePair? engine.cursor.col quote =
          some (opening, closing) →
        next.HasRemoved engine.buffer engine.cursor.line (opening + 1) closing ∧
        next.cursor = ⟨engine.cursor.line, opening + 1⟩ ∧
        next.mode = (if command = .deleteInner quote then
          .normal .none else .insert) ∧
        columns quote next.currentLine =
          (columns quote engine.currentLine).map fun col =>
          if col ≤ opening then col else col - (closing - (opening + 1))) ∧
    ((columns quote engine.currentLine).length < 2 →
      next = engine.enter (.normal .none)) := by
  intro columns next
  have coherent := reachable.coherent
  have same (mark : Char) (text : Line) :
      columns mark text = Line.columnsOf mark text :=
    (Line.columnsOf_eq_columnsFrom mark text).symm
  simp only [same]
  refine ⟨fun text col mark =>
    ⟨Line.isSome_quotePair?_iff, fun _ _ => Line.quotePair?_eq_some_iff⟩,
      fun opening closing pair => ?_, fun fewer => ?_⟩
  · have within : engine.cursor.line < engine.buffer.lineCount :=
      coherent.cursor.1
    obtain ⟨-, -, ordered⟩ := Line.quotePair?_ordered pair
    obtain ⟨i, first, second⟩ := Line.neighbours_of_quotePair? pair
    have runs :
        next = ((engine.cut (opening + 1) closing).atColumn (opening + 1)).enter
          _ :=
      press_inside_of_pair coherent read quoted pair
    have removed :
        next.HasRemoved engine.buffer engine.cursor.line (opening + 1)
          closing := by
      rw [runs]
      exact (hasRemoved_cut within ordered).of_eq rfl rfl
    have cursor : next.cursor = ⟨engine.cursor.line, opening + 1⟩ := by
      rw [runs]
      rfl
    have line : next.currentLine = engine.currentLine.take (opening + 1) ++
        engine.currentLine.drop closing := by
      rw [currentLine, cursor]
      exact removed.lineText_eq within
    refine ⟨removed, cursor, by rw [runs]; rfl, ?_⟩
    rw [line]
    exact Line.columnsOf_without first second
  · refine press_inside_of_none coherent read quoted
      (Option.not_isSome_iff_eq_none.mp fun some => ?_)
    exact Nat.not_lt_of_le (Line.isSome_quotePair?_iff.mp some) fewer

/--
On the closing quote of the first of two pairs, and with another quote that the
line has once.
-/
theorem quoted_text_removed_from_closing_quote :
    let engine := (ofContent "it's \"a b\" \"c\"").run [.setCursor ⟨0, 9⟩]
    let deleting := engine.run [.typeScript "3di"]
    let changing := engine.run [.typeScript "ci"]
    let deleted := (deleting.press (.char '"')).engine
    (Reachable deleting ∧
        deleting.reading? (.char '"') = some (.command (.deleteInner '"') 3)) ∧
      (Reachable changing ∧
        changing.reading? (.char '\'') =
          some (.command (.changeInner '\'') 1)) ∧
      deleted.HasRemoved deleting.buffer 0 6 9 ∧ deleted.cursor = ⟨0, 6⟩ ∧
      deleted.buffer.lines = ["it's \"\" \"c\"".toList] ∧
      (changing.press (.char '\'')).engine =
        changing.enter (.normal .none) := by
  intro engine deleting changing deleted
  have reachable : Reachable deleting := ((Reachable.ofContent _).run _).run _
  have reachable' : Reachable changing := ((Reachable.ofContent _).run _).run _
  have delete :
      deleting.reading? (.char '"') = some (.command (.deleteInner '"') 3) := by
    decide +kernel
  have change :
      changing.reading? (.char '\'') =
        some (.command (.changeInner '\'') 1) := by
    decide +kernel
  have pair :
      deleting.currentLine.quotePair? deleting.cursor.col '"' =
        some (5, 9) := by
    decide +kernel
  have line : deleting.cursor.line = 0 := by decide +kernel
  obtain ⟨-, removes, -⟩ := reachable.quoted_text_removed delete (Or.inl rfl)
  obtain ⟨-, -, keeps⟩ := reachable'.quoted_text_removed change (Or.inr rfl)
  obtain ⟨removed, cursor, -, -⟩ := removes 5 9 pair
  rw [line] at removed cursor
  exact ⟨⟨reachable, delete⟩, ⟨reachable', change⟩, removed, cursor,
    by decide +kernel, keeps (by decide +kernel)⟩

end ModalEditing.Engine
