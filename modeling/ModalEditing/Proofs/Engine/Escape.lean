import ModalEditing.Proofs.Engine.CursorBounds

namespace ModalEditing

namespace Buffer

variable {buffer : Buffer} {p : Position}

theorem Allows.nearest_eq {kind : ModeKind} (allowed : buffer.Allows kind p) :
    Engine.nearest buffer kind p = p := by
  obtain ⟨within, inside⟩ := allowed
  have line : min p.line buffer.lastLine = p.line := by
    unfold lastLine
    omega
  simp [Engine.nearest, line, inside]

theorem Allows.left_of_insert (allowed : buffer.Allows .insert p) :
    buffer.Allows .normal ⟨p.line, p.col - 1⟩ := by
  obtain ⟨within, inside⟩ := allowed
  exact ⟨within, Nat.sub_le_sub_right inside 1⟩

end Buffer

theorem PendingKeys.read_escape (keys : PendingKeys)
    (starts : Char → Option Prefix) :
    ∃ count, keys.read starts .escape = .single count := by
  unfold PendingKeys.read
  cases keys.waiting with
  | none => exact ⟨_, rfl⟩
  | some waiting => exact ⟨_, rfl⟩

namespace Engine

variable {engine : Engine} {event : KeyEvent}

/-! The way out of every mode. -/

/--
Back in normal mode, with the cursor on the last character that was inserted.
-/
def escaped (engine : Engine) : Engine :=
  (if engine.mode.kind = .insert then
    engine.atColumn (engine.cursor.col - 1) else engine).enter (.normal .none)

theorem escaped_of_insert (insert : engine.mode.kind = .insert) :
    engine.escaped =
      (engine.atColumn (engine.cursor.col - 1)).enter (.normal .none) := by
  rw [escaped, if_pos insert]

theorem escaped_of_ne_insert (outside : engine.mode.kind ≠ .insert) :
    engine.escaped = engine.enter (.normal .none) := by
  rw [escaped, if_neg outside]

theorem escaped_of_normal (normal : engine.mode = .normal .none) :
    engine.escaped = engine := by
  have outside : engine.mode.kind ≠ .insert := by
    rw [normal]
    decide
  rw [escaped_of_ne_insert outside, ← normal, enter_mode]

theorem snapshot_escaped (engine : Engine) :
    engine.escaped.snapshot =
      { engine.snapshot with
        mode := .normal
        cursor :=
          { engine.cursor with
            col := if engine.mode.kind = .insert then engine.cursor.col - 1
              else engine.cursor.col }
        selection := none
        commandArea := [] } := by
  by_cases insert : engine.mode.kind = .insert
  · rw [escaped_of_insert insert, if_pos insert]
    rfl
  · rw [escaped_of_ne_insert insert, if_neg insert]
    rfl

theorem escaped_withKeys (engine : Engine) (keys : PendingKeys) :
    (engine.enter (engine.mode.withKeys keys)).escaped = engine.escaped := by
  have kind := Mode.kind_withKeys engine.mode keys
  by_cases insert : engine.mode.kind = .insert
  · rw [escaped_of_insert insert, escaped_of_insert (kind.trans insert)]
    rfl
  · have outside : (engine.mode.withKeys keys).kind ≠ .insert := by rwa [kind]
    rw [escaped_of_ne_insert insert, escaped_of_ne_insert outside]
    rfl

theorem clampCursor_of_allows
    (allowed : engine.buffer.Allows engine.mode.kind engine.cursor) :
    engine.clampCursor = engine := by
  unfold clampCursor
  rw [allowed.nearest_eq]

theorem readKey_escape {keys : PendingKeys} {starts : Char → Option Prefix}
    {run : Engine → Nat → Option Engine} {next : Engine}
    (runs : ∀ count,
      run (engine.enter (engine.mode.withKeys .none)) count = some next) :
    engine.readKey keys starts .escape run = (true, next) := by
  obtain ⟨count, read⟩ := keys.read_escape starts
  simp only [readKey, read, runs]

theorem Coherent.clampCursor_escaped (coherent : engine.Coherent) :
    engine.escaped.clampCursor = engine.escaped := by
  apply clampCursor_of_allows
  have allowed := coherent.cursor
  by_cases insert : engine.mode.kind = .insert
  · rw [insert] at allowed
    rw [escaped_of_insert insert]
    exact allowed.left_of_insert
  · rw [escaped_of_ne_insert insert]
    exact allowed.of_ne_insert ModeKind.noConfusion insert

theorem Coherent.dispatch_escape (coherent : engine.Coherent)
    (bare : event.modifiers.hasCommand = false) (escape : event.key = .escape) :
    engine.dispatch event = (true, engine.escaped) := by
  have clamped := coherent.clampCursor_escaped
  -- Only insert and visual mode clamp the cursor, and the clamping does not
  -- move it.
  cases mode : engine.mode with
  | normal keys =>
      rw [dispatch_normal mode bare, escape]
      refine readKey_escape fun count => ?_
      rw [escaped_of_ne_insert (by simp [mode, Mode.kind]), mode]
      rfl
  | insert =>
      have inserting : engine.mode.kind = .insert := congrArg Mode.kind mode
      refine dispatch_insert mode bare ?_
      rw [escape, ← clamped, escaped_of_insert inserting]
      rfl
  | visual selection keys =>
      rw [dispatch_visual mode bare, escape]
      refine readKey_escape fun count => ?_
      rw [← clamped, escaped_of_ne_insert (by simp [mode, Mode.kind])]
      rfl
  | command line =>
      refine dispatch_command mode bare ?_
      rw [escape, escaped_of_ne_insert (by simp [mode, Mode.kind])]
      rfl

theorem escaped_expire (engine : Engine) :
    engine.expire.escaped = engine.escaped := by
  obtain ⟨keys, expired⟩ := engine.exists_expire_eq
  rw [expired, escaped_withKeys]

theorem Coherent.press_escape (coherent : engine.Coherent)
    (bare : event.modifiers.hasCommand = false) (escape : event.key = .escape) :
    engine.press event =
      ⟨true, event.preventDefault, engine.escaped,
        [engine.escaped.snapshot]⟩ := by
  simp [Engine.press, coherent.expire.dispatch_escape bare escape,
    escaped_expire, publishIf]

/--
Escape leaves every mode for normal mode with nothing selected and nothing
pending, and is consumed. The text and all else that a host sees stays, the
cursor too unless it was inserting. Another Escape does nothing more.
-/
theorem Reachable.escape_returns_to_normal (reachable : Reachable engine)
    (bare : event.modifiers.hasCommand = false) (escape : event.key = .escape) :
    (engine.press event).consumed = true ∧
      (engine.press event).engine.snapshot =
        { engine.snapshot with
          mode := .normal
          cursor :=
            { engine.cursor with
              col := if engine.mode.kind = .insert then engine.cursor.col - 1
                else engine.cursor.col }
          selection := none
          commandArea := [] } ∧
      ∀ again : KeyEvent, again.modifiers.hasCommand = false →
        again.key = .escape →
        ((engine.press event).engine.press again).engine =
          (engine.press event).engine := by
  have left := reachable.coherent.press_escape bare escape
  have coherent := reachable.coherent.press event
  rw [left] at coherent ⊢
  refine ⟨rfl, engine.snapshot_escaped, fun again unmodified same => ?_⟩
  -- The first Escape leaves a coherent editor without pending keys, which is
  -- its own way out.
  have normal : engine.escaped.mode = .normal .none := rfl
  rw [coherent.press_escape unmodified same, escaped_of_normal normal]

/--
Text was inserted behind a line; the cursor goes back on its last character, and
stays there.
-/
theorem escape_returns_to_normal_behind_line :
    let engine :=
      (ofContent "ab\nc").run [.pressKey (.char 'A'), .pressKey (.char 'd')]
    let escape : KeyEvent := .ofKey .escape
    (Reachable engine ∧ engine.mode = .insert ∧ engine.cursor = ⟨0, 3⟩ ∧
        escape.modifiers.hasCommand = false) ∧
      (engine.press escape).consumed = true ∧
      (engine.press escape).engine.snapshot =
        { engine.snapshot with
          mode := .normal, cursor := ⟨0, 2⟩, selection :=
            none, commandArea := [] } ∧
      ((engine.press escape).engine.press ⟨.escape, .shift, false⟩).engine =
        (engine.press escape).engine := by
  intro engine escape
  have reachable : Reachable engine := (Reachable.ofContent _).run _
  have insert : engine.mode = .insert := by decide +kernel
  have cursor : engine.cursor = ⟨0, 3⟩ := by decide +kernel
  have bare : escape.modifiers.hasCommand = false :=
    KeyEvent.hasCommand_ofKey .escape
  obtain ⟨consumed, shown, again⟩ := reachable.escape_returns_to_normal bare rfl
  rw [insert, cursor] at shown
  exact ⟨⟨reachable, insert, cursor, bare⟩, consumed, shown, again _ rfl rfl⟩

end Engine

end ModalEditing
