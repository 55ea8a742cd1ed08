import ModalEditing.Proofs.Engine.ModePayload
import ModalEditing.Proofs.Engine.Reading

namespace ModalEditing

namespace Selection

/--
Selections of one kind from the same place to the same place, made in either
direction.
-/
structure SameExtent (selection other : Selection) : Prop where
  kind : selection.kind = other.kind
  first : selection.first = other.first
  last : selection.last = other.last

theorem sameExtent_swapped (selection : Selection) :
    selection.SameExtent selection.swapped := by
  obtain ⟨anchor, head, kind⟩ := selection
  by_cases forward : anchor ≤ head
  · by_cases backward : head ≤ anchor
    · obtain rfl := Position.eq_of_le_of_le forward backward
      exact ⟨rfl, rfl, rfl⟩
    · constructor <;>
        simp [Selection.first, Selection.last, swapped, forward, backward]
  · have backward := (Position.le_total anchor head).resolve_left forward
    constructor <;>
      simp [Selection.first, Selection.last, swapped, forward, backward]

end Selection

namespace Engine

variable {engine first second : Engine} {selection other : Selection}

/-!
An operator looks at the kind of a selection and at its first and its last place
only.
-/

theorem deleteSelection_congr (extent : selection.SameExtent other)
    (engine : Engine) :
    engine.deleteSelection selection = engine.deleteSelection other := by
  obtain ⟨kind, start, stop⟩ := extent
  simp only [deleteSelection, cutSelection, selectedLines, kind, start, stop]

theorem yankSelection_congr (extent : selection.SameExtent other)
    (engine : Engine) :
    engine.yankSelection selection = engine.yankSelection other := by
  obtain ⟨kind, start, stop⟩ := extent
  simp only [yankSelection, selectedLines, kind, start, stop]

theorem changeSelection_congr (extent : selection.SameExtent other)
    (engine : Engine) :
    engine.changeSelection selection = engine.changeSelection other := by
  obtain ⟨kind, start, stop⟩ := extent
  simp only [changeSelection, cutSelection, selectedLines, kind, start, stop]

/-- Two editors that show the same, except that mode and cursor may differ. -/
structure Resembles (first second : Engine) : Prop where
  lines : first.snapshot.lines = second.snapshot.lines
  registers : first.snapshot.registers = second.snapshot.registers
  lastSearch : first.snapshot.lastSearch = second.snapshot.lastSearch
  message : first.snapshot.message = second.snapshot.message

namespace Resembles

theorem buffer_eq (alike : first.Resembles second) :
    first.buffer = second.buffer :=
  congrArg Buffer.mk alike.lines

theorem snapshot_eq (alike : first.Resembles second)
    (mode : first.mode = second.mode) (cursor : first.cursor = second.cursor) :
    first.snapshot = second.snapshot := by
  obtain ⟨lines, registers, lastSearch, message⟩ := alike
  simp only [snapshot] at lines registers lastSearch message
  simp only [snapshot, mode, cursor, lines, registers, lastSearch, message]

theorem enter (alike : first.Resembles second) (mode other : Mode) :
    (first.enter mode).Resembles (second.enter other) :=
  ⟨alike.lines, alike.registers, alike.lastSearch, alike.message⟩

theorem say (alike : first.Resembles second) (notice : Notice) :
    (first.say notice).Resembles (second.say notice) :=
  ⟨alike.lines, alike.registers, alike.lastSearch, rfl⟩

theorem store (alike : first.Resembles second) (text : Text) :
    (first.store text).Resembles (second.store text) :=
  ⟨alike.lines, congrArg (Registers.store · Registers.unnamed text)
    alike.registers,
      alike.lastSearch, alike.message⟩

theorem edit (alike : first.Resembles second) (buffer : Buffer)
    (p q : Position) :
    Resembles { first with buffer := buffer, cursor := p }
      { second with buffer := buffer, cursor := q } :=
  ⟨rfl, alike.registers, alike.lastSearch, alike.message⟩

theorem snapshot_moveTo (alike : first.Resembles second)
    (mode : first.mode = second.mode) (p : Position) :
    (first.moveTo p).snapshot = (second.moveTo p).snapshot := by
  have cursor : (first.moveTo p).cursor = (second.moveTo p).cursor := by
    simp only [cursor_moveTo, alike.buffer_eq, mode]
  refine snapshot_eq ?_ ?_ cursor
  · exact ⟨alike.lines, alike.registers, alike.lastSearch, alike.message⟩
  · simp only [Engine.moveTo, alike.buffer_eq, mode]

theorem cutSelection (alike : first.Resembles second) (selection : Selection) :
    (first.cutSelection selection).Resembles
      (second.cutSelection selection) := by
  unfold Engine.cutSelection
  rw [alike.buffer_eq]
  exact (alike.edit _ first.cursor second.cursor).store _

theorem snapshot_deleteLines (alike : first.Resembles second)
    (mode : first.mode = second.mode) {line count : Nat}
    (within : line < first.buffer.lineCount) (positive : 1 ≤ count) :
    (first.deleteLines line count).snapshot =
      (second.deleteLines line count).snapshot := by
  have removed := Buffer.isEmpty_deleteLines within positive
  unfold Engine.deleteLines
  rw [alike.buffer_eq] at removed ⊢
  simp only [removed, Bool.false_eq_true, if_false]
  have edited :=
    (alike.edit (second.buffer.deleteLines line count).1 .origin .origin).store
      (RegisterContent.encodeLines (second.buffer.deleteLines line count).2)
  refine snapshot_eq ?_ mode ?_
  · exact ⟨edited.lines, edited.registers, edited.lastSearch, edited.message⟩
  · simp only [Engine.clampCursor, storeLines, mode]

theorem snapshot_changeLines (alike : first.Resembles second)
    (line count : Nat) :
    (first.changeLines line count).snapshot =
      (second.changeLines line count).snapshot := by
  unfold Engine.changeLines
  rw [alike.buffer_eq]
  dsimp only
  have inserting := (alike.store (RegisterContent.encodeLines
    (second.buffer.deleteLines line count).2)).enter .insert .insert
  split
  · exact (inserting.edit _ _ _).snapshot_eq rfl rfl
  · exact (inserting.edit _ _ _).snapshot_eq rfl rfl

theorem snapshot_deleteSelection (alike : first.Resembles second)
    (within : selection.first.line < first.buffer.lineCount) :
    (first.deleteSelection selection).snapshot =
      (second.deleteSelection selection).snapshot := by
  have normal := alike.enter (.normal .none) (.normal .none)
  unfold Engine.deleteSelection
  cases selection.kind with
  | chars => exact (normal.cutSelection selection).snapshot_moveTo rfl _
  | lines => exact normal.snapshot_deleteLines rfl within (Nat.le_add_left 1 _)

theorem snapshot_yankSelection (alike : first.Resembles second)
    (selection : Selection) :
    (first.yankSelection selection).snapshot =
      (second.yankSelection selection).snapshot := by
  have normal := alike.enter (.normal .none) (.normal .none)
  unfold Engine.yankSelection
  cases selection.kind with
  | chars =>
      simp only [normal.buffer_eq]
      exact (normal.store _).snapshot_moveTo rfl _
  | lines =>
      simp only [yankLines, normal.buffer_eq]
      exact ((normal.store _).say _).snapshot_moveTo rfl _

theorem snapshot_changeSelection (alike : first.Resembles second)
    (selection : Selection) :
    (first.changeSelection selection).snapshot =
      (second.changeSelection selection).snapshot := by
  unfold Engine.changeSelection
  cases selection.kind with
  | chars =>
      exact ((alike.cutSelection selection).enter .insert
        .insert).snapshot_moveTo rfl _
  | lines => exact alike.snapshot_changeLines _ _

end Resembles

def operatorKeys : List Char := ['d', 'x', 'y', 'c']

theorem single_of_operatorKeys {c : Char} (operator : c ∈ operatorKeys) :
    Text.digit? c = none ∧ Prefix.ofVisualKey? c = none := by
  simp only [operatorKeys, List.mem_cons, List.not_mem_nil,
    or_false] at operator
  rcases operator with rfl | rfl | rfl | rfl <;> exact ⟨rfl, rfl⟩

/--
What an operator shows does not depend on the direction of the selection nor on
a count.
-/
theorem Resembles.snapshot_operator {keys others : PendingKeys}
    (alike : first.Resembles second) (extent : selection.SameExtent other)
    (visual : first.mode = .visual selection keys) (free : keys.waiting = none)
    (otherVisual : second.mode = .visual other others)
    (otherFree : others.waiting = none)
    (within : selection.first.line < first.buffer.lineCount) {event : KeyEvent}
    (bare : event.modifiers.hasCommand = false) {c : Char}
    (operator : c ∈ operatorKeys) (key : event.key = .char c) :
    (first.press event).engine.snapshot =
      (second.press event).engine.snapshot := by
  obtain ⟨noDigit, noPrefix⟩ := single_of_operatorKeys operator
  obtain ⟨count, pressed⟩ :=
    press_visual_of_free visual free bare key noDigit noPrefix
  obtain ⟨otherCount, otherPressed⟩ :=
    press_visual_of_free otherVisual otherFree bare key noDigit noPrefix
  have entered := alike.enter (.visual selection .none) (.visual other .none)
  rw [pressed, otherPressed]
  -- Each operator is the function of its two ends, and these are the same.
  have deleted := entered.snapshot_deleteSelection within
  rw [deleteSelection_congr extent (second.enter _)] at deleted
  have yanked := entered.snapshot_yankSelection selection
  rw [yankSelection_congr extent (second.enter _)] at yanked
  have changed := entered.snapshot_changeSelection selection
  rw [changeSelection_congr extent (second.enter _)] at changed
  simp only [operatorKeys, List.mem_cons, List.not_mem_nil,
    or_false] at operator
  rcases operator with rfl | rfl | rfl | rfl
  · exact deleted
  · exact deleted
  · exact yanked
  · exact changed

theorem press_swap {keys : PendingKeys}
    (visual : engine.mode = .visual selection keys) (free : keys.waiting = none)
    {turn : KeyEvent} (bare : turn.modifiers.hasCommand = false)
    (key : turn.key = .char 'o') :
    (engine.press turn).engine =
      (engine.enter (.visual selection .none)).swapSelection selection := by
  obtain ⟨count, pressed⟩ := press_visual_of_free visual free bare key rfl rfl
  rw [pressed]
  rfl

/--
An operator does not depend on the direction in which its selection was made,
nor on the cursor or a count: editors that show the same text, registers, search
and message show the same after it. So does an editor whose selection is turned
around before.
-/
theorem Reachable.operator_ignores_direction {keys others : PendingKeys}
    (reachable : Reachable first) (visual : first.mode = .visual selection keys)
    (free : keys.waiting = none)
    (otherVisual : second.mode = .visual other others)
    (otherFree : others.waiting = none) (alike : first.Resembles second)
    (extent : selection.SameExtent other) {event : KeyEvent}
    (bare : event.modifiers.hasCommand = false) {c : Char}
    (operator : c ∈ operatorKeys) (key : event.key = .char c) :
    (first.press event).engine.snapshot = (second.press event).engine.snapshot ∧
      ∀ turn : KeyEvent, turn.modifiers.hasCommand = false →
        turn.key = .char 'o' →
        ((first.press turn).engine.press event).engine.snapshot =
          (first.press event).engine.snapshot := by
  have fits := (reachable.coherent.fits_of_visual visual).1
  have operated :=
    alike.snapshot_operator extent visual free otherVisual otherFree
      fits.first.1 bare operator key
  refine ⟨operated, fun turn unmodified swap => ?_⟩
  have turned := press_swap visual free unmodified swap
  have around : first.Resembles (first.press turn).engine := by
    rw [turned]
    exact ⟨rfl, rfl, rfl, rfl⟩
  have swapped :
      (first.press turn).engine.mode = .visual selection.swapped .none := by
    rw [turned]
    rfl
  exact (around.snapshot_operator selection.sameExtent_swapped visual free
    swapped rfl fits.first.1 bare operator key).symm

/--
The same characters selected downwards and, with a count typed, upwards over an
empty line.
-/
theorem operator_ignores_direction_over_lines :
    let first := (ofContent "abc\n\nxy").run
      [.setCursor ⟨0, 1⟩, .pressKey (.char 'v'), .pressKey (.char 'G'),
        .pressKey (.char 'l')]
    let second := (ofContent "abc\n\nxy").run
      [.setCursor ⟨2, 1⟩, .pressKey (.char 'v'), .pressKey (.char 'k'),
        .pressKey (.char 'k'), .pressKey (.char 'l'), .pressKey (.char '3')]
    let selection : Selection := ⟨⟨0, 1⟩, ⟨2, 1⟩, .chars⟩
    (Reachable first ∧ first.mode = .visual selection .none ∧
        second.mode = .visual selection.swapped ⟨some 3, none⟩ ∧
        first.Resembles second ∧
        selection.SameExtent selection.swapped ∧ first.cursor ≠ second.cursor) ∧
      (first.press (.char 'd')).engine.snapshot =
        (second.press (.char 'd')).engine.snapshot ∧
      ((first.press (.char 'o')).engine.press (.char 'd')).engine.snapshot =
        (first.press (.char 'd')).engine.snapshot := by
  intro first second selection
  have reachable : Reachable first := (Reachable.ofContent _).run _
  have visual : first.mode = .visual selection .none := by decide +kernel
  have otherVisual :
      second.mode = .visual selection.swapped ⟨some 3, none⟩ := by
    decide +kernel
  have alike : first.Resembles second := by
    constructor <;> decide +kernel
  have extent := selection.sameExtent_swapped
  have bare : (KeyEvent.char 'd').modifiers.hasCommand = false := rfl
  obtain ⟨operated, turned⟩ :=
    reachable.operator_ignores_direction visual rfl otherVisual rfl
    alike extent bare (by decide) rfl
  exact ⟨⟨reachable, visual, otherVisual, alike, extent, by decide +kernel⟩,
    operated, turned (.char 'o') rfl rfl⟩

end Engine

end ModalEditing
