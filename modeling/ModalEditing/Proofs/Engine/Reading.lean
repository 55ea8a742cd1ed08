import ModalEditing.Proofs.Engine.CursorBounds

namespace ModalEditing.Engine

variable {engine : Engine}

/-! What a key press means in a mode with pending keys, and what it runs. -/

/--
What a key means after the pending keys; none if the mode has no such keys.
-/
def reading? (engine : Engine) (event : KeyEvent) : Option KeyReading :=
  if event.modifiers.hasCommand then none
  else
    match engine.mode with
    | .normal keys =>
        some ((keys.inTime engine.now).read Prefix.ofNormalKey? event.key)
    | .visual _ keys =>
        some ((keys.inTime engine.now).read Prefix.ofVisualKey? event.key)
    | .insert => none
    | .command _ => none

theorem reading?_bare {event : KeyEvent} {reading : KeyReading}
    (read : engine.reading? event = some reading) :
    event.modifiers.hasCommand = false := by
  unfold reading? at read
  split at read
  · contradiction
  · rename_i bare
    exact Bool.eq_false_iff.mpr bare

theorem reading?_normal {keys : PendingKeys}
    (normal : engine.mode = .normal keys) {event : KeyEvent}
    (bare : event.modifiers.hasCommand = false) :
    engine.reading? event =
      some ((keys.inTime engine.now).read Prefix.ofNormalKey? event.key) := by
  simp [reading?, bare, normal]

theorem reading?_visual {selection : Selection} {keys : PendingKeys}
    (visual : engine.mode = .visual selection keys) {event : KeyEvent}
    (bare : event.modifiers.hasCommand = false) :
    engine.reading? event =
      some ((keys.inTime engine.now).read Prefix.ofVisualKey? event.key) := by
  simp [reading?, bare, visual]

theorem exists_reading?_eq {keys : PendingKeys}
    (held : engine.mode.keys? = some keys) {event : KeyEvent}
    (bare : event.modifiers.hasCommand = false) :
    ∃ starts : Char → Option Prefix,
      (∀ c held, starts c = some held → held.keys = [c]) ∧
      engine.reading? event =
        some ((keys.inTime engine.now).read starts event.key) := by
  cases mode : engine.mode with
  | normal pending =>
      obtain rfl := Option.some.inj ((congrArg Mode.keys? mode).symm.trans held)
      exact ⟨_, fun _ _ =>
        Prefix.keys_of_ofNormalKey?, reading?_normal mode bare⟩
  | visual selection pending =>
      obtain rfl := Option.some.inj ((congrArg Mode.keys? mode).symm.trans held)
      exact ⟨_, fun _ _ =>
        Prefix.keys_of_ofVisualKey?, reading?_visual mode bare⟩
  | insert => simp [mode, Mode.keys?] at held
  | command line => simp [mode, Mode.keys?] at held

theorem reading?_visual_single {selection : Selection} {keys : PendingKeys}
    (visual : engine.mode = .visual selection keys) (motions : keys.OnlyMotions)
    (quiet : ¬ engine.AwaitsCharacter) {event : KeyEvent}
    (bare : event.modifiers.hasCommand = false) {c : Char}
    (key : event.key = .char c) (noDigit : Text.digit? c = none)
    (noPrefix : Prefix.ofVisualKey? c = none) :
    ∃ count, engine.reading? event = some (.single count) := by
  have held : engine.mode.keys? = some keys := congrArg Mode.keys? visual
  obtain ⟨count, read⟩ := (motions.inTime engine.now).read_single
    (fun _ waits => takesAny_inTime_eq_false held quiet waits) noDigit noPrefix
  refine ⟨count, ?_⟩
  rw [reading?_visual visual bare, key, read]

theorem reading?_visual_awaited {selection : Selection} {keys : PendingKeys}
    (visual : engine.mode = .visual selection keys)
    (awaits : engine.AwaitsCharacter) {event : KeyEvent}
    (bare : event.modifiers.hasCommand = false) {c : Char}
    (key : event.key = .char c) :
    ∃ command count, keys.read Prefix.ofVisualKey? (.char c) =
        .command command count ∧
      engine.reading? event = some (.command command count) := by
  obtain ⟨timely, _, waiting, pending, waits, any⟩ := awaits
  have held : engine.mode.keys? = some keys := congrArg Mode.keys? visual
  obtain rfl := Option.some.inj (held.symm.trans pending)
  have inTime : keys.inTime engine.now = keys := by
    refine if_neg ?_
    simpa [isOverdue, held] using timely
  obtain ⟨command, read⟩ :=
    PendingKeys.read_takesAny waits any Prefix.ofVisualKey? c
  refine ⟨command, keys.count.getD 1, read, ?_⟩
  rw [reading?_visual visual bare, inTime, key, read]

theorem press_engine_normal {keys : PendingKeys}
    (normal : engine.mode = .normal keys) {event : KeyEvent}
    (bare : event.modifiers.hasCommand = false) :
    (engine.press event).engine =
      ((engine.enter (.normal (keys.inTime engine.now))).readKey
        (keys.inTime engine.now) Prefix.ofNormalKey? event.key
        (runNormalKey? · event.key)).2 := by
  have held : engine.mode.keys? = some keys := by simp [normal, Mode.keys?]
  have expired := expire_eq_withKeys held
  rw [normal, Mode.withKeys] at expired
  simp only [press, expired]
  rw [dispatch_normal rfl bare]

theorem press_engine_visual {selection : Selection} {keys : PendingKeys}
    (visual : engine.mode = .visual selection keys) {event : KeyEvent}
    (bare : event.modifiers.hasCommand = false) :
    (engine.press event).engine =
      ((engine.enter (.visual selection (keys.inTime engine.now))).readKey
        (keys.inTime engine.now) Prefix.ofVisualKey? event.key
        (runVisualKey? · selection event.key)).2 := by
  have held : engine.mode.keys? = some keys := by simp [visual, Mode.keys?]
  have expired := expire_eq_withKeys held
  rw [visual, Mode.withKeys] at expired
  simp only [press, expired]
  rw [dispatch_visual rfl bare]

theorem press_of_takenIn {event : KeyEvent} {count : Option Nat}
    {held : Option Prefix}
    (read : engine.reading? event = some (.takenIn count held)) :
    (engine.press event).engine = engine.hold count held := by
  have bare := reading?_bare read
  cases mode : engine.mode with
  | normal keys =>
      rw [reading?_normal mode bare] at read
      rw [press_engine_normal mode bare]
      simp only [readKey, Option.some.inj read, hold, mode]
      rfl
  | visual selection keys =>
      rw [reading?_visual mode bare] at read
      rw [press_engine_visual mode bare]
      simp only [readKey, Option.some.inj read, hold, mode]
      rfl
  | insert => simp [reading?, mode] at read
  | command line => simp [reading?, mode] at read

theorem press_of_command {event : KeyEvent} {command : KeyCommand} {count : Nat}
    (read : engine.reading? event = some (.command command count)) :
    (engine.press event).engine =
      (engine.enter (engine.mode.withKeys .none)).runKeyCommand
        command count := by
  have bare := reading?_bare read
  cases mode : engine.mode with
  | normal keys =>
      rw [reading?_normal mode bare] at read
      rw [press_engine_normal mode bare]
      simp only [readKey, Option.some.inj read]
      rfl
  | visual selection keys =>
      rw [reading?_visual mode bare] at read
      rw [press_engine_visual mode bare]
      simp only [readKey, Option.some.inj read]
      rfl
  | insert => simp [reading?, mode] at read
  | command line => simp [reading?, mode] at read

theorem press_of_single_normal {keys : PendingKeys}
    (normal : engine.mode = .normal keys) {event : KeyEvent} {count : Nat}
    (read : engine.reading? event = some (.single count)) :
    (engine.press event).engine =
      ((engine.enter (.normal .none)).runNormalKey? event.key count).getD
        (engine.enter (.normal .none)) := by
  have bare := reading?_bare read
  rw [reading?_normal normal bare] at read
  rw [press_engine_normal normal bare, readKey_single (Option.some.inj read)]
  rfl

theorem press_of_single_visual {selection : Selection} {keys : PendingKeys}
    (visual : engine.mode = .visual selection keys) {event : KeyEvent}
    {count : Nat} (read : engine.reading? event = some (.single count)) :
    (engine.press event).engine =
      ((engine.enter (.visual selection .none)).runVisualKey? selection
        event.key count).getD (engine.enter (.visual selection .none)) := by
  have bare := reading?_bare read
  rw [reading?_visual visual bare] at read
  rw [press_engine_visual visual bare, readKey_single (Option.some.inj read)]
  rfl

theorem press_visual_of_free {selection : Selection} {keys : PendingKeys}
    (visual : engine.mode = .visual selection keys) (free : keys.waiting = none)
    {event : KeyEvent} (bare : event.modifiers.hasCommand = false) {c : Char}
    (key : event.key = .char c) (noDigit : Text.digit? c = none)
    (noPrefix : Prefix.ofVisualKey? c = none) :
    ∃ count, (engine.press event).engine =
      ((engine.enter (.visual selection .none)).runVisualKey? selection
        (.char c) count).getD (engine.enter (.visual selection .none)) := by
  have motions : keys.OnlyMotions := by simp [PendingKeys.OnlyMotions, free]
  have quiet := not_awaitsCharacter (congrArg Mode.keys? visual) free
  obtain ⟨count, read⟩ :=
    reading?_visual_single visual motions quiet bare key noDigit noPrefix
  refine ⟨count, ?_⟩
  rw [press_of_single_visual visual read, key]

theorem Coherent.command_pos (coherent : engine.Coherent) {event : KeyEvent}
    {command : KeyCommand} {count : Nat}
    (read : engine.reading? event = some (.command command count)) :
    1 ≤ count := by
  have bare := reading?_bare read
  cases mode : engine.mode with
  | normal keys =>
      have counted := coherent.counted (congrArg Mode.keys? mode)
      rw [reading?_normal mode bare] at read
      exact (counted.inTime engine.now).command_pos (Option.some.inj read)
  | visual selection keys =>
      have counted := coherent.counted (congrArg Mode.keys? mode)
      rw [reading?_visual mode bare] at read
      exact (counted.inTime engine.now).command_pos (Option.some.inj read)
  | insert => simp [reading?, mode] at read
  | command line => simp [reading?, mode] at read

theorem Coherent.single_pos (coherent : engine.Coherent) {event : KeyEvent}
    {count : Nat} (read : engine.reading? event = some (.single count)) :
    1 ≤ count := by
  have bare := reading?_bare read
  cases mode : engine.mode with
  | normal keys =>
      have counted := coherent.counted (congrArg Mode.keys? mode)
      rw [reading?_normal mode bare] at read
      exact (counted.inTime engine.now).single_pos (Option.some.inj read)
  | visual selection keys =>
      have counted := coherent.counted (congrArg Mode.keys? mode)
      rw [reading?_visual mode bare] at read
      exact (counted.inTime engine.now).single_pos (Option.some.inj read)
  | insert => simp [reading?, mode] at read
  | command line => simp [reading?, mode] at read

end ModalEditing.Engine
