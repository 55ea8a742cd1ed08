import ModalEditing.Engine.Operation
import ModalEditing.Proofs.PendingKeys

namespace ModalEditing

@[simp] theorem KeyEvent.hasCommand_ofKey (key : Key) :
    (ofKey key).modifiers.hasCommand = false := by
  cases key with
  | char c =>
      simp only [ofKey, char]
      split <;> rfl
  | _ => rfl

@[simp] theorem KeyEvent.hasCommand_char (c : Char) :
    (char c).modifiers.hasCommand = false :=
  hasCommand_ofKey (.char c)

namespace Mode

theorem withKeys_of_keys?_eq_none {mode : Mode} (free : mode.keys? = none)
    (keys : PendingKeys) : mode.withKeys keys = mode := by
  cases mode with
  | normal _ => contradiction
  | insert => rfl
  | visual _ _ => contradiction
  | command _ => rfl

theorem withKeys_of_keys?_eq_some {mode : Mode} {keys : PendingKeys}
    (held : mode.keys? = some keys) : mode.withKeys keys = mode := by
  cases mode with
  | normal _ => exact congrArg normal (Option.some.inj held).symm
  | insert => rfl
  | visual selection _ =>
      exact congrArg (visual selection) (Option.some.inj held).symm
  | command _ => rfl

@[simp] theorem withKeys_withKeys (mode : Mode) (keys others : PendingKeys) :
    (mode.withKeys keys).withKeys others = mode.withKeys others := by
  cases mode <;> rfl

theorem keys?_withKeys {mode : Mode} {keys : PendingKeys}
    (held : mode.keys? = some keys) (others : PendingKeys) :
    (mode.withKeys others).keys? = some others := by
  cases mode with
  | normal _ => rfl
  | insert => contradiction
  | visual _ _ => rfl
  | command _ => contradiction

end Mode

namespace Engine

variable {engine : Engine}

/-! How a key press goes from the pending keys to the command that it runs. -/

/-- The next character is one that a command looks for or puts in. -/
def AwaitsCharacter (engine : Engine) : Prop :=
  engine.isOverdue = false ∧
    ∃ keys waiting, engine.mode.keys? = some keys ∧
      keys.waiting = some waiting ∧
      waiting.held.takesAny = true

theorem expire_of_timely (timely : engine.isOverdue = false) :
    engine.expire = engine := by
  unfold isOverdue at timely
  unfold expire
  split
  · rename_i held
    rw [if_neg]
    simpa [held] using timely
  · rfl

theorem enter_mode (engine : Engine) : engine.enter engine.mode = engine := rfl

theorem expire_eq_withKeys {keys : PendingKeys}
    (held : engine.mode.keys? = some keys) :
    engine.expire =
      engine.enter (engine.mode.withKeys (keys.inTime engine.now)) := by
  unfold expire PendingKeys.inTime
  rw [held]
  dsimp only
  split
  · rfl
  · rw [Mode.withKeys_of_keys?_eq_some held, enter_mode]

theorem exists_expire_eq (engine : Engine) :
    ∃ keys, engine.expire = engine.enter (engine.mode.withKeys keys) := by
  cases held : engine.mode.keys? with
  | none =>
      refine ⟨.none, ?_⟩
      rw [Mode.withKeys_of_keys?_eq_none held, enter_mode]
      simp [expire, held]
  | some keys => exact ⟨_, expire_eq_withKeys held⟩

theorem not_awaitsCharacter {keys : PendingKeys}
    (held : engine.mode.keys? = some keys) (free : keys.waiting = none) :
    ¬ engine.AwaitsCharacter := by
  rintro ⟨-, pending, waiting, same, waits, -⟩
  obtain rfl := Option.some.inj (held.symm.trans same)
  rw [free] at waits
  contradiction

theorem takesAny_inTime_eq_false {keys : PendingKeys}
    (held : engine.mode.keys? = some keys) (quiet : ¬ engine.AwaitsCharacter)
    {waiting : HeldPrefix}
    (waits : (keys.inTime engine.now).waiting = some waiting) :
    waiting.held.takesAny = false := by
  unfold PendingKeys.inTime at waits
  split at waits
  · simp [PendingKeys.dropPrefix] at waits
  · rename_i timely
    refine Bool.eq_false_iff.mpr fun any =>
      quiet ⟨?_, keys, waiting, held, waits, any⟩
    simpa [isOverdue, held] using timely

theorem engine_pressAll_append (engine : Engine)
    (first second : List KeyEvent) :
    (engine.pressAll (first ++ second)).engine =
      ((engine.pressAll first).engine.pressAll second).engine := by
  induction first generalizing engine with
  | nil => rfl
  | cons event rest ih => exact ih (engine.press event).engine

theorem dispatch_normal {keys : PendingKeys}
    (normal : engine.mode = .normal keys) {event : KeyEvent}
    (bare : event.modifiers.hasCommand = false) :
    engine.dispatch event =
      engine.readKey keys Prefix.ofNormalKey? event.key
        (runNormalKey? · event.key) := by
  simp [dispatch, bare, normal]

theorem dispatch_visual {selection : Selection} {keys : PendingKeys}
    (visual : engine.mode = .visual selection keys) {event : KeyEvent}
    (bare : event.modifiers.hasCommand = false) :
    engine.dispatch event =
      engine.readKey keys Prefix.ofVisualKey? event.key
        (runVisualKey? · selection event.key) := by
  simp [dispatch, bare, visual]

theorem dispatch_insert (insert : engine.mode = .insert) {event : KeyEvent}
    (bare : event.modifiers.hasCommand = false) {next : Engine}
    (runs : engine.runInsertKey? event.key = some next) :
    engine.dispatch event = (true, next) := by
  simp [dispatch, bare, insert, runs]

theorem dispatch_command {line : Text} (command : engine.mode = .command line)
    {event : KeyEvent} (bare : event.modifiers.hasCommand = false)
    {next : Engine} (runs : engine.runCommandKey? line event.key = some next) :
    engine.dispatch event = (true, next) := by
  simp [dispatch, bare, command, runs]

theorem readKey_single {keys : PendingKeys} {starts : Char → Option Prefix}
    {key : Key} {run : Engine → Nat → Option Engine} {count : Nat}
    (read : keys.read starts key = .single count) :
    (engine.readKey keys starts key run).2 =
      (run (engine.enter (engine.mode.withKeys .none)) count).getD
        (engine.enter (engine.mode.withKeys .none)) := by
  simp only [readKey, read]
  split <;> simp [*]

/--
What holds of the engine after a key is read: one case for each thing a key can
mean.
-/
theorem readKey_cases {P : Engine → Prop} {keys : PendingKeys}
    {starts : Char → Option Prefix} {key : Key}
    {run : Engine → Nat → Option Engine}
    (takenIn : ∀ count held, keys.read starts key = .takenIn count held →
      P (engine.hold count held))
    (command : ∀ command count, keys.read starts key = .command command count →
      P ((engine.enter (engine.mode.withKeys .none)).runKeyCommand
        command count))
    (single : ∀ count next,
      run (engine.enter (engine.mode.withKeys .none)) count = some next →
        P next)
    (refused : P (engine.enter (engine.mode.withKeys .none))) :
    P (engine.readKey keys starts key run).2 := by
  unfold readKey
  dsimp only
  split
  · exact takenIn _ _ ‹_›
  · exact command _ _ ‹_›
  · split
    · exact single _ _ ‹_›
    · exact refused

theorem readKey_refused {keys : PendingKeys} {starts : Char → Option Prefix}
    {key : Key} {run : Engine → Nat → Option Engine}
    (refused : (engine.readKey keys starts key run).1 = false) :
    (engine.readKey keys starts key run).2 =
      engine.enter (engine.mode.withKeys .none) := by
  unfold readKey at refused ⊢
  dsimp only at refused ⊢
  split at refused
  · contradiction
  · contradiction
  · split at refused
    · contradiction
    · rfl

theorem dispatch_refused_of_hasCommand {event : KeyEvent}
    (modified : event.modifiers.hasCommand = true)
    (refused : (engine.dispatch event).1 = false) :
    (engine.dispatch event).2 = engine := by
  unfold dispatch at refused ⊢
  rw [if_pos modified] at refused ⊢
  split at refused
  · contradiction
  · rw [if_neg ‹_›]

theorem dispatch_refused {event : KeyEvent}
    (bare : event.modifiers.hasCommand = false)
    (refused : (engine.dispatch event).1 = false) :
    (engine.dispatch event).2 = engine.enter (engine.mode.withKeys .none) := by
  have unchanged (free : engine.mode.keys? = none) :
      engine = engine.enter (engine.mode.withKeys .none) := by
    rw [Mode.withKeys_of_keys?_eq_none free, enter_mode]
  unfold dispatch at refused ⊢
  simp only [bare, Bool.false_eq_true, if_false] at refused ⊢
  split at refused
  · exact readKey_refused refused
  · exact readKey_refused refused
  · rename_i mode
    split at refused
    · contradiction
    · exact unchanged (congrArg Mode.keys? mode)
  · rename_i mode
    split at refused
    · contradiction
    · exact unchanged (congrArg Mode.keys? mode)

/--
A key that is left to the host loses the pending keys at most, and nobody hears
of it.
-/
theorem press_of_refused {event : KeyEvent} (timely : engine.isOverdue = false)
    (refused : (engine.press event).consumed = false) :
    engine.press event =
      ⟨false, event, if event.modifiers.hasCommand then engine
        else engine.enter (engine.mode.withKeys .none), []⟩ := by
  have unexpired := expire_of_timely timely
  have left : (engine.dispatch event).1 = false := by
    simpa only [press, unexpired] using refused
  simp only [press, unexpired, left, timely, publishIf, Bool.false_eq_true,
    if_false, Bool.or_false]
  cases modified : event.modifiers.hasCommand with
  | true => rw [dispatch_refused_of_hasCommand modified left, if_pos rfl]
  | false => rw [dispatch_refused modified left, if_neg Bool.false_ne_true]

theorem pressKey_visual {selection : Selection} {keys : PendingKeys}
    (visual : engine.mode = .visual selection keys) (motions : keys.OnlyMotions)
    (quiet : ¬ engine.AwaitsCharacter) {c : Char}
    (noDigit : Text.digit? c = none) (noPrefix : Prefix.ofVisualKey? c = none) :
    ∃ count, (engine.pressKey (.char c)).engine =
      ((engine.enter (.visual selection .none)).runVisualKey? selection
        (.char c) count).getD (engine.enter (.visual selection .none)) := by
  have held : engine.mode.keys? = some keys := by simp [visual, Mode.keys?]
  obtain ⟨count, read⟩ := (motions.inTime engine.now).read_single
    (fun _ waits => takesAny_inTime_eq_false held quiet waits) noDigit noPrefix
  have expired := expire_eq_withKeys held
  rw [visual, Mode.withKeys] at expired
  refine ⟨count, ?_⟩
  simp only [pressKey, press, expired]
  rw [dispatch_visual rfl (KeyEvent.hasCommand_ofKey _), KeyEvent.key_ofKey]
  exact readKey_single read

theorem pressKey_visual_of_awaitsCharacter {selection : Selection}
    {keys : PendingKeys} (visual : engine.mode = .visual selection keys)
    (awaits : engine.AwaitsCharacter) (c : Char) :
    ∃ command count, keys.read Prefix.ofVisualKey? (.char c) =
        .command command count ∧
      (engine.pressKey (.char c)).engine =
        (engine.enter (.visual selection .none)).runKeyCommand
          command count := by
  obtain ⟨timely, _, waiting, held, waits, any⟩ := awaits
  rw [visual] at held
  cases held
  obtain ⟨command, read⟩ :=
    PendingKeys.read_takesAny waits any Prefix.ofVisualKey? c
  refine ⟨command, keys.count.getD 1, read, ?_⟩
  simp only [pressKey, press, expire_of_timely timely]
  rw [dispatch_visual visual (KeyEvent.hasCommand_ofKey _), KeyEvent.key_ofKey]
  simp [readKey, read, visual, Mode.withKeys]

theorem moveToColumn_eq (engine : Engine) (col : Option Nat) :
    engine.moveToColumn col = engine ∨ ∃ p,
      engine.moveToColumn col = engine.moveTo p := by
  cases col with
  | none => exact Or.inl rfl
  | some col => exact Or.inr ⟨_, rfl⟩

theorem runKeyCommand_of_onlyMotions {keys : PendingKeys}
    (motions : keys.OnlyMotions) {starts : Char → Option Prefix} {key : Key}
    {command : KeyCommand} {count : Nat}
    (read : keys.read starts key = .command command count) (engine : Engine) :
    engine.runKeyCommand command count = engine ∨
      ∃ p, engine.runKeyCommand command count = engine.moveTo p := by
  rcases motions.command read with rfl | ⟨c, rfl⟩ | ⟨c, rfl⟩
  · exact Or.inr ⟨.origin, rfl⟩
  · exact engine.moveToColumn_eq _
  · exact engine.moveToColumn_eq _

theorem pressKey_normal (normal : engine.mode = .normal .none) {c : Char}
    (noDigit : Text.digit? c = none) (noPrefix : Prefix.ofNormalKey? c = none) :
    (engine.pressKey (.char c)).engine =
      (engine.runNormalKey? (.char c) 1).getD engine := by
  have timely : engine.isOverdue = false := by
    simp [isOverdue, normal, Mode.keys?, PendingKeys.isOverdue,
      PendingKeys.none]
  have bare : engine.enter (engine.mode.withKeys .none) = engine := by
    rw [normal, Mode.withKeys, ← normal, enter_mode]
  have read :
      PendingKeys.none.read Prefix.ofNormalKey? (.char c) = .single 1 := by
    simp [PendingKeys.read, PendingKeys.none, noDigit, noPrefix]
  simp only [pressKey, press, expire_of_timely timely]
  rw [dispatch_normal normal (KeyEvent.hasCommand_ofKey _), KeyEvent.key_ofKey,
    readKey_single read, bare]

end Engine

end ModalEditing
