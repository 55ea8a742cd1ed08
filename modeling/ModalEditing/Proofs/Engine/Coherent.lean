import ModalEditing.Engine.Operation
import ModalEditing.Proofs.Buffer.Cut
import ModalEditing.Proofs.PendingKeys

namespace ModalEditing

/-- Whether the cursor may be at a place in a mode. -/
def Buffer.Allows (buffer : Buffer) (kind : ModeKind) (p : Position) : Prop :=
  p.line < buffer.lineCount ∧ p.col ≤ buffer.maxCol p.line (kind == .insert)

/--
Both ends of a selection are characters or empty lines, and its head is with the
cursor.
-/
structure Selection.Fits (selection : Selection) (buffer : Buffer)
    (cursor : Position) : Prop where
  anchor : buffer.Allows .visual selection.anchor
  head : buffer.Allows .visual selection.head
  head_line : selection.head.line = cursor.line
  head_eq : selection.kind = .chars → selection.head = cursor

namespace Selection

variable {selection : Selection} {buffer : Buffer} {cursor : Position}

theorem Fits.first (fits : selection.Fits buffer cursor) :
    buffer.Allows .visual selection.first := by
  unfold Selection.first
  split
  · exact fits.anchor
  · exact fits.head

theorem Fits.last (fits : selection.Fits buffer cursor) :
    buffer.Allows .visual selection.last := by
  unfold Selection.last
  split
  · exact fits.head
  · exact fits.anchor

end Selection

/-- What a mode holds is possible with a buffer and a cursor. -/
def Mode.Fits (buffer : Buffer) (cursor : Position) : Mode → Prop
  | .normal keys => keys.Counted
  | .insert => True
  | .visual selection keys =>
      selection.Fits buffer cursor ∧ keys.Counted ∧ keys.OnlyMotions
  | .command line => line.head? = some ':' ∨ line.head? = some '/'

namespace Engine

/-! The invariant of an editor. -/

structure Coherent (engine : Engine) : Prop where
  lines_ne_nil : engine.buffer.lines ≠ []
  cursor : engine.buffer.Allows engine.mode.kind engine.cursor
  mode : engine.mode.Fits engine.buffer engine.cursor

/-- Normal mode without pending keys, with the cursor anywhere. -/
structure Ready (engine : Engine) : Prop where
  lines_ne_nil : engine.buffer.lines ≠ []
  mode_eq : engine.mode = .normal .none

end Engine

namespace Buffer

theorem lineCount_pos {buffer : Buffer} (nonempty : buffer.lines ≠ []) :
    0 < buffer.lineCount :=
  List.length_pos_iff.mpr nonempty

theorem lines_ne_nil_of_lt {buffer : Buffer} {line : Nat}
    (within : line < buffer.lineCount) : buffer.lines ≠ [] := by
  rintro empty
  simp [lineCount, empty] at within

theorem allows_insert_iff {buffer : Buffer} {p : Position} :
    buffer.Allows .insert p ↔ buffer.hasGap p = true :=
  (hasGap_iff buffer p).symm

theorem Allows.hasGap {buffer : Buffer} {kind : ModeKind} {p : Position}
    (allowed : buffer.Allows kind p) : buffer.hasGap p = true := by
  obtain ⟨within, inside⟩ := allowed
  refine (hasGap_iff buffer p).mpr ⟨within, ?_⟩
  unfold maxCol at inside
  split at inside <;> omega

theorem Allows.of_ne_insert {buffer : Buffer} {kind other : ModeKind}
    {p : Position} (allowed : buffer.Allows kind p) (noInsert : other ≠ .insert)
    (agree : kind ≠ .insert) : buffer.Allows other p := by
  cases kind <;> cases other <;> first | contradiction | exact allowed

theorem allows_nearest {buffer : Buffer} (nonempty : buffer.lines ≠ [])
    (kind : ModeKind) (p : Position) :
    buffer.Allows kind (Engine.nearest buffer kind p) := by
  have positive := lineCount_pos nonempty
  refine ⟨?_, Nat.min_le_right _ _⟩
  simp only [Engine.nearest, lastLine]
  omega

theorem allows_origin {buffer : Buffer} (nonempty : buffer.lines ≠ [])
    (kind : ModeKind) : buffer.Allows kind .origin :=
  ⟨lineCount_pos nonempty, Nat.zero_le _⟩

theorem allows_of_hasChar {buffer : Buffer} {p : Position}
    (char : buffer.hasChar p = true) (kind : ModeKind) :
    buffer.Allows kind p := by
  obtain ⟨within, inside⟩ := (hasChar_iff buffer p).mp char
  refine ⟨within, ?_⟩
  unfold maxCol
  split <;> omega

theorem allows_cut_cons (above : List Line) (left : Line) (c : Char)
    (right : Line) (below : List Line) (kind : ModeKind) :
    (cut above left (c :: right) below).Allows kind
      ⟨above.length, left.length⟩ := by
  have within : above.length < above.length + below.length + 1 := by omega
  refine ⟨?_, ?_⟩
  · rwa [lineCount_cut]
  · simp only [maxCol, lineLength_cut, List.length_cons]
    split <;> omega

end Buffer

namespace Engine

variable {engine : Engine}

theorem Coherent.ready (coherent : engine.Coherent)
    (normal : engine.mode = .normal .none) : engine.Ready :=
  ⟨coherent.lines_ne_nil, normal⟩

theorem Ready.kind_eq (ready : engine.Ready) : engine.mode.kind = .normal :=
  congrArg Mode.kind ready.mode_eq

theorem Ready.coherent (ready : engine.Ready)
    (allowed : engine.buffer.Allows .normal engine.cursor) :
    engine.Coherent := by
  obtain ⟨nonempty, normal⟩ := ready
  refine ⟨nonempty, ?_, ?_⟩
  · rwa [normal]
  · rw [normal]
    exact PendingKeys.counted_none

theorem Ready.clampCursor (ready : engine.Ready) :
    engine.clampCursor.Coherent := by
  refine Ready.coherent ⟨ready.lines_ne_nil, ready.mode_eq⟩ ?_
  rw [← ready.kind_eq]
  exact Buffer.allows_nearest ready.lines_ne_nil engine.mode.kind engine.cursor

theorem Coherent.moveTo (coherent : engine.Coherent) (p : Position) :
    (engine.moveTo p).Coherent := by
  have allowed := Buffer.allows_nearest coherent.lines_ne_nil engine.mode.kind p
  refine ⟨coherent.lines_ne_nil, by simpa [Engine.moveTo] using allowed, ?_⟩
  have fits := coherent.mode
  simp only [Engine.moveTo]
  cases mode : engine.mode with
  | visual selection keys =>
      rw [mode] at fits allowed
      obtain ⟨selected, counted, motions⟩ := fits
      exact ⟨⟨selected.anchor, allowed, rfl, fun _ => rfl⟩, counted, motions⟩
  | normal keys => rwa [mode] at fits
  | insert => trivial
  | command line => rwa [mode] at fits

theorem Ready.moveTo (ready : engine.Ready) (p : Position) :
    (engine.moveTo p).Ready := by
  refine ⟨ready.lines_ne_nil, ?_⟩
  simp [Engine.moveTo, ready.mode_eq, follow]

theorem Ready.coherent_moveTo (ready : engine.Ready) (p : Position) :
    (engine.moveTo p).Coherent := by
  refine (ready.moveTo p).coherent ?_
  rw [← ready.kind_eq]
  exact Buffer.allows_nearest ready.lines_ne_nil engine.mode.kind p

theorem Coherent.moveToColumn (coherent : engine.Coherent) (col : Option Nat) :
    (engine.moveToColumn col).Coherent := by
  cases col with
  | none => exact coherent
  | some col => exact coherent.moveTo _

theorem Coherent.hasGap (coherent : engine.Coherent) :
    engine.buffer.hasGap engine.cursor = true :=
  coherent.cursor.hasGap

theorem coherent_of_insert (insert : engine.mode = .insert)
    (gap : engine.buffer.hasGap engine.cursor = true) : engine.Coherent := by
  refine ⟨Buffer.lines_ne_nil_of_lt ((Buffer.hasGap_iff _ _).mp gap).1, ?_, ?_⟩
  · rw [insert]
    exact Buffer.allows_insert_iff.mpr gap
  · rw [insert]
    trivial

theorem Coherent.enter (coherent : engine.Coherent)
    (outside : engine.mode.kind ≠ .insert) {mode : Mode}
    (target : mode.kind ≠ .insert)
    (fits : mode.Fits engine.buffer engine.cursor) :
    (engine.enter mode).Coherent :=
  ⟨coherent.lines_ne_nil, coherent.cursor.of_ne_insert target outside, fits⟩

theorem Coherent.say (coherent : engine.Coherent) (notice : Notice) :
    (engine.say notice).Coherent :=
  ⟨coherent.lines_ne_nil, coherent.cursor, coherent.mode⟩

end Engine

end ModalEditing
