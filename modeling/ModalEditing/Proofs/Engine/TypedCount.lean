import ModalEditing.Proofs.Engine.Reading
import ModalEditing.Proofs.Text.Numeral

namespace ModalEditing

theorem pushDigit_none (digit : Nat) :
    pushDigit none digit = min digit maxCount := by
  simp [pushDigit]

theorem pushDigit_min (n digit : Nat) :
    pushDigit (some (min n maxCount)) digit =
      min (10 * n + digit) maxCount := by
  simp only [pushDigit, maxCount, Option.getD_some]
  omega

namespace PendingKeys

variable {keys : PendingKeys}

theorem inTime_of_free (free : keys.waiting = .none) (now : Duration) :
    keys.inTime now = keys :=
  if_neg (by simp [isOverdue, free])

theorem inTime_start (count : Option Nat) (held : Prefix)
    (now wait : Duration) :
    (PendingKeys.mk count (some (.start held now wait))).inTime now =
      ⟨count, if now < now + wait then
        some (.start held now wait) else .none⟩ := by
  have expired : (PendingKeys.mk count (some (.start held now wait))).isOverdue
        now = true ↔
      ¬ now < now + wait := by
    rw [Duration.lt_def, Nat.not_lt]
    exact decide_eq_true_iff
  unfold PendingKeys.inTime
  by_cases timely : now < now + wait
  · rw [if_pos timely, if_neg (not_not_intro timely ∘ expired.mp)]
  · rw [if_neg timely, if_pos (expired.mpr timely)]
    rfl

theorem read_alone (free : keys.waiting = .none) {starts : Char → Option Prefix}
    {c : Char} (noDigit : Text.digit? c = .none) (noPrefix : starts c = .none) :
    keys.read starts (.char c) = .single (keys.count.getD 1) := by
  simp [read, free, noDigit, noPrefix]

theorem read_started (free : keys.waiting = .none)
    {starts : Char → Option Prefix} {c : Char} {held : Prefix}
    (noDigit : Text.digit? c = .none) (start : starts c = some held) :
    keys.read starts (.char c) = .takenIn keys.count (some held) := by
  simp [read, free, noDigit, start]

theorem read_completed {waiting : HeldPrefix}
    (held : keys.waiting = some waiting) (starts : Char → Option Prefix)
    {c : Char} {command : KeyCommand}
    (complete : waiting.held.complete c = .command command) :
    keys.read starts (.char c) = .command command (keys.count.getD 1) := by
  simp [read, held, complete]

theorem read_digit (free : keys.waiting = .none) (starts : Char → Option Prefix)
    {c : Char} {digit : Nat} (value : Text.digit? c = some digit)
    (counts : digit ≠ 0 ∨ keys.count.isSome) :
    keys.read starts (.char c) =
      .takenIn (some (pushDigit keys.count digit)) .none := by
  have kept :
      (some digit).filter (fun digit => digit ≠ 0 || keys.count.isSome) =
        some digit :=
    Option.filter_eq_some_iff.mpr ⟨rfl, by simpa using counts⟩
  simp only [read, free, value, kept]

end PendingKeys

namespace Engine

variable {engine : Engine}

/-! What a count that is typed leaves pending. -/

/-- The editor after the characters of a text are typed. -/
def typed (engine : Engine) (text : Text) : Engine :=
  (engine.pressAll (text.map KeyEvent.char)).engine

theorem typed_singleton (engine : Engine) (c : Char) :
    engine.typed [c] = (engine.press (.char c)).engine := rfl

theorem typed_append (engine : Engine) (first second : Text) :
    engine.typed (first ++ second) = (engine.typed first).typed second := by
  unfold typed
  rw [List.map_append, engine_pressAll_append]

theorem press_digit {keys : PendingKeys} (held : engine.mode.keys? = some keys)
    (free : keys.waiting = none) {c : Char} {digit : Nat}
    (value : Text.digit? c = some digit)
    (counts : digit ≠ 0 ∨ keys.count.isSome) :
    (engine.press (.char c)).engine =
      engine.enter (engine.mode.withKeys
        ⟨some (pushDigit keys.count digit), none⟩) := by
  obtain ⟨starts, -, reading⟩ :=
    exists_reading?_eq held (KeyEvent.hasCommand_char c)
  rw [PendingKeys.inTime_of_free free, KeyEvent.key_char,
    PendingKeys.read_digit free starts value counts] at reading
  exact press_of_takenIn reading

/-- The digits of a number make it the count, up to the largest one. -/
theorem typed_decimal (bare : engine.mode.keys? = some .none) {n : Nat}
    (positive : 1 ≤ n) :
    engine.typed (Text.decimal n) =
      engine.enter (engine.mode.withKeys ⟨some (min n maxCount), none⟩) := by
  induction n, positive using Text.digit_induction with
  | first digit positive below =>
      rw [Text.decimal_of_lt below, typed_singleton, ← pushDigit_none]
      exact press_digit bare rfl (Text.digit?_digitChar below)
        (Or.inl (by omega))
  | push n digit positive below ih =>
      let before :=
        engine.enter (engine.mode.withKeys ⟨some (min n maxCount), none⟩)
      have held : before.mode.keys? = _ := Mode.keys?_withKeys bare _
      have pressed :=
        press_digit held rfl (Text.digit?_digitChar below) (Or.inr rfl)
      rw [Text.decimal_append_digit positive below, typed_append, ih,
        typed_singleton, pressed, ← pushDigit_min]
      simp [before, enter]

/-! Commands of normal mode with a count before them. -/

section Counted

variable {n : Nat} {first second : Char} {held : Prefix} {command : KeyCommand}
  (normal : engine.mode = .normal .none) (positive : 1 ≤ n)
  (limited : n ≤ maxCount)

theorem reading?_enter_normal (engine : Engine) (keys : PendingKeys)
    (c : Char) :
    (engine.enter (.normal keys)).reading? (.char c) =
      some ((keys.inTime engine.now).read Prefix.ofNormalKey? (.char c)) :=
  reading?_normal rfl (KeyEvent.hasCommand_char c)

include normal

theorem enter_normal : engine.enter (.normal .none) = engine := by
  rw [← normal, enter_mode]

include positive limited

theorem typed_count :
    engine.typed (Text.decimal n) = engine.enter (.normal ⟨some n, none⟩) := by
  rw [typed_decimal (congrArg Mode.keys? normal) positive, normal,
    Nat.min_eq_left limited]
  rfl

theorem typed_count_single (noDigit : Text.digit? first = none)
    (noPrefix : Prefix.ofNormalKey? first = none) :
    engine.typed (Text.decimal n ++ [first]) =
      (engine.runNormalKey? (.char first) n).getD engine := by
  have reading := engine.reading?_enter_normal ⟨some n, none⟩ first
  rw [PendingKeys.inTime_of_free rfl,
    PendingKeys.read_alone rfl noDigit noPrefix] at reading
  have pressed := press_of_single_normal rfl reading
  rw [typed_append, typed_count normal positive limited,
    typed_singleton, pressed]
  exact congrArg (fun engine =>
    (runNormalKey? engine (.char first) n).getD engine) (enter_normal normal)

theorem typed_count_prefix (noDigit : Text.digit? first = none)
    (starts : Prefix.ofNormalKey? first = some held) :
    engine.typed (Text.decimal n ++ [first]) =
      engine.enter (.normal ⟨some n,
        some (.start held engine.now engine.settings.wait)⟩) := by
  have reading := engine.reading?_enter_normal ⟨some n, none⟩ first
  rw [PendingKeys.inTime_of_free rfl,
    PendingKeys.read_started rfl noDigit starts] at reading
  have pressed := press_of_takenIn reading
  rw [typed_append, typed_count normal positive limited,
    typed_singleton, pressed]
  rfl

theorem typed_count_prefix_append (noDigit : Text.digit? first = none)
    (starts : Prefix.ofNormalKey? first = some held) :
    engine.typed (Text.decimal n ++ [first, second]) =
      ((engine.enter (.normal ⟨some n,
        some (.start held engine.now engine.settings.wait)⟩)).press
          (.char second)).engine := by
  have typed := typed_count_prefix normal positive limited noDigit starts
  rw [← typed, ← typed_singleton, ← typed_append, List.append_assoc,
    List.singleton_append]

theorem typed_count_command (noDigit : Text.digit? first = none)
    (starts : Prefix.ofNormalKey? first = some held)
    (complete : held.complete second = .command command)
    (timely : engine.now < engine.now + engine.settings.wait) :
    engine.typed (Text.decimal n ++ [first, second]) =
      engine.runKeyCommand command n := by
  let waiting := HeldPrefix.start held engine.now engine.settings.wait
  have read := @PendingKeys.read_completed ⟨some n, some waiting⟩ waiting rfl
    Prefix.ofNormalKey? _ _ complete
  have reading := engine.reading?_enter_normal ⟨some n, some waiting⟩ second
  rw [PendingKeys.inTime_start, if_pos timely, read] at reading
  rw [typed_count_prefix_append normal positive limited noDigit starts,
    press_of_command reading]
  exact congrArg (runKeyCommand · command n) (enter_normal normal)

/--
A prefix that is overdue at once is dropped by the key behind it, and the count
stays.
-/
theorem typed_count_late (noDigit : Text.digit? first = none)
    (starts : Prefix.ofNormalKey? first = some held)
    (late : ¬ engine.now < engine.now + engine.settings.wait) :
    engine.typed (Text.decimal n ++ [first, second]) =
      engine.typed (Text.decimal n ++ [second]) := by
  have pressed (keys : PendingKeys) :
      ((engine.enter (.normal keys)).press (.char second)).engine =
        ((engine.enter (.normal (keys.inTime engine.now))).readKey
          (keys.inTime engine.now) Prefix.ofNormalKey? (.char second)
          (runNormalKey? · (.char second))).2 :=
    press_engine_normal rfl (KeyEvent.hasCommand_char second)
  rw [typed_count_prefix_append normal positive limited noDigit starts,
    typed_append, typed_count normal positive limited, typed_singleton, pressed,
    pressed, PendingKeys.inTime_start, if_neg late,
    PendingKeys.inTime_of_free rfl]

end Counted

end Engine

end ModalEditing
