import ModalEditing.Proofs.Engine.Deadlines

namespace ModalEditing

def countDigits : List Char := ['1', '2', '3', '4', '5', '6', '7', '8', '9']

namespace ModeKind

def prefixKeys : ModeKind → List Char
  | normal => ['d', 'c', 'y', 'g', 'r', 'f', 'F']
  | visual => ['g', 'f', 'F']
  | insert | command => []

/-- A key is taken in where no keys are pending, as a count or as a prefix. -/
def TakesIn (kind : ModeKind) (key : Key) : Prop :=
  ∃ c, key = .char c ∧ (c ∈ countDigits ∨ c ∈ kind.prefixKeys)

end ModeKind

namespace Prefix

theorem ofNormalKey?_eq_none {c : Char}
    (other : c ∉ ModeKind.normal.prefixKeys) : ofNormalKey? c = none := by
  simp only [ModeKind.prefixKeys, List.mem_cons, List.not_mem_nil, or_false,
    not_or] at other
  simp [ofNormalKey?, other]

theorem ofVisualKey?_eq_none {c : Char}
    (other : c ∉ ModeKind.visual.prefixKeys) : ofVisualKey? c = none := by
  simp only [ModeKind.prefixKeys, List.mem_cons, List.not_mem_nil, or_false,
    not_or] at other
  simp [ofVisualKey?, other]

end Prefix

theorem Text.mem_countDigits {c : Char} {digit : Nat}
    (value : digit? c = some digit) (counts : digit ≠ 0) : c ∈ countDigits := by
  have table :
      ∀ digit < 10, digit ≠ 0 → Char.ofNat (48 + digit) ∈ countDigits := by
    decide
  unfold digit? at value
  split at value
  · rename_i isDigit
    have bounds : 48 ≤ c.toNat ∧ c.toNat ≤ 57 := by
      simpa [Char.isDigit, UInt32.le_iff_toNat_le] using isDigit
    have code : c.toNat - 48 = digit := Option.some.inj value
    have member := table digit (by omega) counts
    rwa [show 48 + digit = c.toNat by omega, Char.ofNat_toNat] at member
  · contradiction

namespace PendingKeys

variable {starts : Char → Option Prefix} {key : Key}

theorem read_of_dropped {keys : PendingKeys} {waiting : HeldPrefix}
    (waits : keys.waiting = some waiting)
    (fails : ∀ c, key = .char c → waiting.held.complete c = .nothing) :
    keys.read starts key = .single 1 := by
  cases key with
  | char c => simp [read, waits, fails c rfl]
  | _ => simp [read, waits]

theorem read_none (uncounted : ∀ c, key = .char c → c ∉ countDigits)
    (begins : ∀ c, key = .char c → starts c = .none) :
    none.read starts key = .single 1 := by
  have reads := reads_read none starts key
  generalize none.read starts key = reading at reads ⊢
  -- No prefix waits here, so that the key is a digit, starts a prefix or stands
  -- alone.
  cases reads with
  | completed held => contradiction
  | lengthened held => contradiction
  | dropped held => contradiction
  | @digit c digit _ value counts =>
      have counts : digit ≠ 0 := counts.resolve_right (by simp [none])
      exact absurd (Text.mem_countDigits value counts) (uncounted c rfl)
  | @started c held _ start =>
      rw [begins c rfl] at start
      contradiction
  | alone => rfl

end PendingKeys

theorem Mode.normal_or_visual_of_keys? {mode : Mode} {keys : PendingKeys}
    (held : mode.keys? = some keys) :
    mode = .normal keys ∨ ∃ selection, mode = .visual selection keys := by
  cases mode with
  | normal pending => exact Or.inl (congrArg normal (Option.some.inj held))
  | visual selection pending =>
      exact Or.inr ⟨selection,
        congrArg (visual selection) (Option.some.inj held)⟩
  | insert => contradiction
  | command line => contradiction

namespace Engine

variable {engine : Engine}

def withoutKeys (engine : Engine) : Engine :=
  engine.enter (engine.mode.withKeys .none)

theorem keys?_withoutKeys {keys : PendingKeys}
    (held : engine.mode.keys? = some keys) :
    engine.withoutKeys.mode.keys? = some .none := by
  obtain mode | ⟨selection, mode⟩ := Mode.normal_or_visual_of_keys? held
  · simp [withoutKeys, enter, mode, Mode.withKeys, Mode.keys?]
  · simp [withoutKeys, enter, mode, Mode.withKeys, Mode.keys?]

theorem isOverdue_withoutKeys {keys : PendingKeys}
    (held : engine.mode.keys? = some keys) :
    engine.withoutKeys.isOverdue = false := by
  simp [isOverdue, keys?_withoutKeys held, PendingKeys.isOverdue,
    PendingKeys.none]

theorem runNormalKey?_eq_none {key : Key} (taken : ModeKind.normal.TakesIn key)
    (engine : Engine) (count : Nat) :
    engine.runNormalKey? key count = none := by
  obtain ⟨c, rfl, member⟩ := taken
  simp only [countDigits, ModeKind.prefixKeys, List.mem_cons, List.not_mem_nil,
    or_false] at member
  rcases member with (rfl | rfl | rfl | rfl | rfl | rfl | rfl | rfl | rfl) |
    (rfl | rfl | rfl | rfl | rfl | rfl | rfl)
  all_goals rfl

theorem runVisualKey?_eq_none {key : Key} (taken : ModeKind.visual.TakesIn key)
    (engine : Engine) (selection : Selection) (count : Nat) :
    engine.runVisualKey? selection key count = none := by
  obtain ⟨c, rfl, member⟩ := taken
  simp only [countDigits, ModeKind.prefixKeys, List.mem_cons, List.not_mem_nil,
    or_false] at member
  rcases member with
      (rfl | rfl | rfl | rfl | rfl | rfl | rfl | rfl | rfl) | (rfl | rfl | rfl)
  all_goals rfl

section Reading

variable {keys : PendingKeys} {starts : Char → Option Prefix} {key : Key}
  {run : Engine → Nat → Option Engine}

theorem readKey_of_refused (read : keys.read starts key = .single 1)
    (refused : run engine.withoutKeys 1 = none) :
    engine.readKey keys starts key run = (false, engine.withoutKeys) := by
  unfold withoutKeys at refused ⊢
  simp [readKey, read, refused]

theorem readKey_of_single (read : keys.read starts key = .single 1)
    (alone : PendingKeys.none.read starts key = .single 1) :
    engine.readKey keys starts key run =
      engine.withoutKeys.readKey .none starts key run := by
  have again :
      engine.withoutKeys.enter (engine.withoutKeys.mode.withKeys .none) =
        engine.withoutKeys := by
    unfold withoutKeys enter
    cases engine.mode <;> rfl
  simp only [readKey, read, alone, again]
  rfl

end Reading

variable {keys : PendingKeys} {waiting : HeldPrefix} {event : KeyEvent}

theorem dispatch_of_dropped_of_takesIn (held : engine.mode.keys? = some keys)
    (waits : keys.waiting = some waiting)
    (bare : event.modifiers.hasCommand = false)
    (fails : ∀ c, event.key = .char c → waiting.held.complete c = .nothing)
    (taken : engine.mode.kind.TakesIn event.key) :
    engine.dispatch event = (false, engine.withoutKeys) := by
  have read (starts : Char → Option Prefix) :
      keys.read starts event.key = .single 1 :=
    PendingKeys.read_of_dropped waits fails
  obtain mode | ⟨selection, mode⟩ := Mode.normal_or_visual_of_keys? held
  · rw [mode] at taken
    rw [dispatch_normal mode bare]
    exact readKey_of_refused (read _) (runNormalKey?_eq_none taken _ 1)
  · rw [mode] at taken
    rw [dispatch_visual mode bare]
    exact readKey_of_refused (read _)
      (runVisualKey?_eq_none taken _ selection 1)

theorem dispatch_of_dropped (held : engine.mode.keys? = some keys)
    (waits : keys.waiting = some waiting)
    (bare : event.modifiers.hasCommand = false)
    (fails : ∀ c, event.key = .char c → waiting.held.complete c = .nothing)
    (free : ¬ engine.mode.kind.TakesIn event.key) :
    engine.dispatch event = engine.withoutKeys.dispatch event := by
  have read (starts : Char → Option Prefix) :
      keys.read starts event.key = .single 1 :=
    PendingKeys.read_of_dropped waits fails
  have uncounted : ∀ c, event.key = .char c → c ∉ countDigits :=
    fun c key member =>
    free ⟨c, key, Or.inl member⟩
  have begins : ∀ c, event.key = .char c → c ∉ engine.mode.kind.prefixKeys :=
    fun c key member =>
    free ⟨c, key, Or.inr member⟩
  obtain mode | ⟨selection, mode⟩ := Mode.normal_or_visual_of_keys? held
  · rw [mode] at begins
    have next : engine.withoutKeys.mode = .normal .none := by
      simp [withoutKeys, enter, mode, Mode.withKeys]
    rw [dispatch_normal mode bare, dispatch_normal next bare]
    apply readKey_of_single (read _)
    exact PendingKeys.read_none uncounted fun c key =>
      Prefix.ofNormalKey?_eq_none (begins c key)
  · rw [mode] at begins
    have next : engine.withoutKeys.mode = .visual selection .none := by
      simp [withoutKeys, enter, mode, Mode.withKeys]
    rw [dispatch_visual mode bare, dispatch_visual next bare]
    apply readKey_of_single (read _)
    exact PendingKeys.read_none uncounted fun c key =>
      Prefix.ofVisualKey?_eq_none (begins c key)

/--
A key that does not go on with the prefix before it drops the prefix and the
count. It is then not consumed if it could start either itself; otherwise it
does just what it does without keys before it.
-/
theorem press_of_dropped_keys (held : engine.mode.keys? = some keys)
    (waits : keys.waiting = some waiting)
    (early : engine.now < waiting.deadline)
    (bare : event.modifiers.hasCommand = false)
    (fails : ∀ c, event.key = .char c → waiting.held.complete c = .nothing) :
    (engine.mode.kind.TakesIn event.key →
      engine.press event = ⟨false, event, engine.withoutKeys, []⟩) ∧
    (¬ engine.mode.kind.TakesIn event.key →
      engine.press event = engine.withoutKeys.press event) := by
  have timely : engine.isOverdue = false := by
    apply engine.isOverdue_eq_false_iff.mpr
    intro pending same waiting' waits'
    rw [held] at same
    cases same
    rw [waits] at waits'
    cases waits'
    exact early
  constructor
  · intro taken
    simp [press, expire_of_timely timely,
      dispatch_of_dropped_of_takesIn held waits bare fails taken,
      timely, publishIf]
  · intro free
    have without := isOverdue_withoutKeys held
    simp only [press, expire_of_timely timely, expire_of_timely without, timely,
      without, dispatch_of_dropped held waits bare fails free]

/--
Behind `2g` in visual mode `d` deletes the selection, and `f` does not start to
look for one.
-/
theorem press_of_dropped_keys_in_visual :
    let engine := (ofContent "one two").run
      [.pressKey (.char 'v'), .pressKey (.char 'e'), .pressKey (.char '2'),
        .pressKey (.char 'g')]
    let waiting : HeldPrefix := ⟨.go, .ofMilliseconds 1000⟩
    (engine.mode.keys? = some ⟨some 2, some waiting⟩ ∧
        engine.now < waiting.deadline ∧
        (∀ c, Key.char 'd' = .char c → waiting.held.complete c = .nothing) ∧
        (∀ c, Key.char 'f' = .char c → waiting.held.complete c = .nothing)) ∧
      engine.press (.char 'd') = engine.withoutKeys.press (.char 'd') ∧
      (engine.press (.char 'd')).engine.buffer.lines = [" two".toList] ∧
      engine.press (.char 'f') =
        ⟨false, .char 'f', engine.withoutKeys, []⟩ := by
  intro engine waiting
  have held : engine.mode.keys? = some ⟨some 2, some waiting⟩ := by
    decide +kernel
  have early : engine.now < waiting.deadline := by decide +kernel
  have failsD :
      ∀ c, Key.char 'd' = .char c → waiting.held.complete c = .nothing := by
    rintro _ ⟨⟩
    rfl
  have failsF :
      ∀ c, Key.char 'f' = .char c → waiting.held.complete c = .nothing := by
    rintro _ ⟨⟩
    rfl
  have kind : engine.mode.kind = .visual := by decide +kernel
  have free : ¬ engine.mode.kind.TakesIn (.char 'd') := by
    rw [kind]
    rintro ⟨_, ⟨⟩, member⟩
    simp [countDigits, ModeKind.prefixKeys] at member
  have taken : engine.mode.kind.TakesIn (.char 'f') := by
    rw [kind]
    exact ⟨'f', rfl, by decide⟩
  exact ⟨⟨held, early, failsD, failsF⟩,
    (press_of_dropped_keys held rfl early rfl failsD).2 free, by decide +kernel,
    (press_of_dropped_keys held rfl early rfl failsF).1 taken⟩

end Engine

end ModalEditing
