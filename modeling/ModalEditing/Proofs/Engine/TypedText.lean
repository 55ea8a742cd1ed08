import Mathlib.Data.List.Forall2
import Mathlib.Data.List.Induction
import ModalEditing.Proofs.Buffer.Insertion
import ModalEditing.Proofs.Engine.CursorBounds

namespace ModalEditing

/-- A key types a character, or the enter key a line break. -/
def KeyEvent.Types (event : KeyEvent) (c : Char) : Prop :=
  event.modifiers.hasCommand = false ∧
    (event.key = .char c ∧ c ≠ '\n' ∨ event.key = .enter ∧ c = '\n')

theorem KeyEvent.types_char {c : Char} (whole : c ≠ '\n') : (char c).Types c :=
  ⟨hasCommand_char c, Or.inl ⟨key_char c, whole⟩⟩

namespace Engine

variable {engine : Engine} {event : KeyEvent} {events : List KeyEvent}
  {text : Text}

/-! Insert mode: what is typed is inserted, and taken back from its end. -/

/-- A text is inserted at the cursor, which goes behind it. -/
def insertText (engine : Engine) (text : Text) : Engine :=
  { engine with
    buffer := (engine.buffer.insertText engine.cursor text).1
    cursor := (engine.buffer.insertText engine.cursor text).2 }

theorem insertText_nil (gap : engine.buffer.hasGap engine.cursor = true) :
    engine.insertText [] = engine := by
  rw [insertText, Buffer.insertText_nil gap]

theorem insertText_append (gap : engine.buffer.hasGap engine.cursor = true)
    (first second : Text) :
    engine.insertText (first ++ second) =
      (engine.insertText first).insertText second := by
  simp only [insertText, Buffer.insertText_append gap]

theorem hasGap_cursor_insertText
    (gap : engine.buffer.hasGap engine.cursor = true) (text : Text) :
    (engine.insertText text).buffer.hasGap (engine.insertText text).cursor =
      true :=
  Buffer.hasGap_insertText gap text

theorem press_of_insert (insert : engine.mode = .insert)
    (bare : event.modifiers.hasCommand = false) {next : Engine}
    (runs : engine.runInsertKey? event.key = some next) :
    (engine.press event).engine = next := by
  have unexpired : engine.expire = engine := by
    simp [expire, insert, Mode.keys?]
  simp only [press, unexpired, dispatch_insert insert bare runs]

theorem press_of_types (insert : engine.mode = .insert)
    (gap : engine.buffer.hasGap engine.cursor = true) {c : Char}
    (types : event.Types c) :
    (engine.press event).engine = engine.insertText [c] := by
  obtain ⟨bare, ⟨key, whole⟩ | ⟨key, rfl⟩⟩ := types
  · obtain ⟨inserted, behind⟩ := Buffer.insertChar?_eq gap whole
    refine press_of_insert insert bare ?_
    rw [key, insertText, behind]
    unfold runInsertKey?
    dsimp only
    rw [inserted]
    rfl
  · obtain ⟨broken, behind⟩ := Buffer.breakLine?_eq gap
    refine press_of_insert insert bare ?_
    rw [key, insertText, behind]
    unfold runInsertKey?
    dsimp only
    rw [broken]

theorem press_of_backspace (insert : engine.mode = .insert)
    (gap : engine.buffer.hasGap engine.cursor = true) (c : Char)
    (bare : event.modifiers.hasCommand = false)
    (backspace : event.key = .backspace) :
    ((engine.insertText [c]).press event).engine = engine := by
  have deleted := Buffer.deleteBefore?_insertText gap c
  refine @press_of_insert (engine.insertText [c]) event insert bare engine ?_
  rw [backspace, insertText]
  unfold runInsertKey?
  dsimp only
  rw [deleted]

theorem press_of_tab (insert : engine.mode = .insert)
    (bare : event.modifiers.hasCommand = false) (tab : event.key = .tab) :
    (engine.press event).engine =
      engine.insertText (List.replicate engine.settings.tabWidth ' ') := by
  refine press_of_insert insert bare ?_
  rw [tab]
  rfl

theorem pressAll_of_types (insert : engine.mode = .insert)
    (gap : engine.buffer.hasGap engine.cursor = true)
    (types : List.Forall₂ KeyEvent.Types events text) :
    (engine.pressAll events).engine = engine.insertText text := by
  induction types generalizing engine with
  | nil => exact (insertText_nil gap).symm
  | cons first _ ih =>
      rename_i event c events text _
      have rest :=
        @ih (engine.insertText [c]) insert (hasGap_cursor_insertText gap [c])
      rw [pressAll, press_of_types insert gap first, rest,
        ← insertText_append gap]
      rfl

theorem pressAll_of_backspaces (insert : engine.mode = .insert)
    (gap : engine.buffer.hasGap engine.cursor = true)
    (backspaces : ∀ event ∈ events, event.modifiers.hasCommand = false ∧
      event.key = .backspace)
    (many : events.length = text.length) :
    ((engine.insertText text).pressAll events).engine = engine := by
  -- The last character that was typed is the first to go.
  induction text using List.reverseRecOn generalizing events with
  | nil =>
      obtain rfl := List.length_eq_zero_iff.mp many
      exact insertText_nil gap
  | append_singleton text c ih =>
      obtain ⟨event, rest, rfl⟩ := List.exists_cons_of_length_pos
        (show 0 < events.length by rw [many]; simp)
      obtain ⟨⟨bare, backspace⟩, others⟩ := List.forall_mem_cons.mp backspaces
      have first := @press_of_backspace (engine.insertText text) event insert
        (hasGap_cursor_insertText gap text) c bare backspace
      rw [insertText_append gap, pressAll, first]
      refine ih others ?_
      simpa using many

/--
Keys that are typed insert the text that they spell, as many backspaces take it
back, and a tab is as many blanks as the settings say.
-/
theorem Reachable.typed_text_inserted (reachable : Reachable engine)
    (insert : engine.mode = .insert) :
    (∀ events text, List.Forall₂ KeyEvent.Types events text →
      (engine.pressAll events).engine = engine.insertText text ∧
      ∀ backspaces : List KeyEvent, backspaces.length = events.length →
        (∀ event ∈ backspaces, event.modifiers.hasCommand = false ∧
          event.key = .backspace) →
        ((engine.pressAll events).engine.pressAll backspaces).engine = engine) ∧
    ∀ tab : KeyEvent, tab.modifiers.hasCommand = false → tab.key = .tab →
      ∀ spaces, List.Forall₂ KeyEvent.Types spaces
          (List.replicate engine.settings.tabWidth ' ') →
        (engine.press tab).engine = (engine.pressAll spaces).engine := by
  have gap := reachable.coherent.hasGap
  constructor
  · intro events text types
    have typed := pressAll_of_types insert gap types
    refine ⟨typed, fun backspaces many erase => ?_⟩
    rw [typed]
    exact pressAll_of_backspaces insert gap erase (many.trans types.length_eq)
  · intro tab bare key spaces types
    rw [press_of_tab insert bare key, pressAll_of_types insert gap types]

/-- In the middle of a line, with a line break among what is typed. -/
theorem typed_text_inserted_with_break :
    let engine :=
      (ofContent "ab\ncd").run [.setCursor ⟨0, 1⟩, .pressKey (.char 'i')]
    let events : List KeyEvent := [.char 'x', .ofKey .enter, .char 'Y']
    let text : Text := ['x', '\n', 'Y']
    let typed := (engine.pressAll events).engine
    (Reachable engine ∧ engine.mode = .insert ∧
        List.Forall₂ KeyEvent.Types events text) ∧
      (typed = engine.insertText text ∧ typed.cursor = ⟨1, 1⟩ ∧
        typed.buffer.lines = [['a', 'x'], ['Y', 'b'], ['c', 'd']]) ∧
      (typed.pressAll (List.replicate 3 (.ofKey .backspace))).engine = engine ∧
      (engine.pressKey .tab).engine =
        (engine.pressAll (List.replicate engine.settings.tabWidth
          (.char ' '))).engine := by
  intro engine events text typed
  have reachable : Reachable engine := (Reachable.ofContent _).run _
  have insert : engine.mode = .insert := by decide +kernel
  have enter : (KeyEvent.ofKey .enter).Types '\n' := ⟨rfl, Or.inr ⟨rfl, rfl⟩⟩
  have types : List.Forall₂ KeyEvent.Types events text :=
    .cons (KeyEvent.types_char (by decide)) <|
      .cons enter <| .cons (KeyEvent.types_char (by decide)) .nil
  have blank : (KeyEvent.char ' ').Types ' ' := KeyEvent.types_char (by decide)
  have blanks : List.Forall₂ KeyEvent.Types
      (List.replicate engine.settings.tabWidth (.char ' '))
      (List.replicate engine.settings.tabWidth ' ') :=
    List.forall₂_iff_get.mpr ⟨by simp, fun i _ _ => by simpa using blank⟩
  obtain ⟨both, tabs⟩ := reachable.typed_text_inserted insert
  obtain ⟨inserted, erased⟩ := both events text types
  exact ⟨⟨reachable, insert, types⟩,
    ⟨inserted, by decide +kernel, by decide +kernel⟩, erased _ rfl (by simp),
    tabs _ rfl rfl _ blanks⟩

end Engine

end ModalEditing
