import Mathlib.Logic.Function.Iterate
import ModalEditing.Proofs.Engine.DroppedPrefix
import ModalEditing.Proofs.Engine.Escape
import ModalEditing.Proofs.Engine.TypedCount

namespace ModalEditing

theorem repeatMotion_eq_iterate (step : Position → Position) (count : Nat)
    (p : Position) : repeatMotion step count p = step^[count] p := by
  induction count generalizing p with
  | zero => rfl
  | succ count ih =>
      rw [repeatMotion, Function.iterate_succ_apply]
      split
      · rename_i fixed
        rw [fixed, Function.iterate_fixed fixed]
      · exact ih (step p)

theorem Prefix.ofVisualKey?_of_ofNormalKey? {c : Char}
    (alone : ofNormalKey? c = none) : ofVisualKey? c = none := by
  unfold ofVisualKey?
  split
  · contradiction
  · contradiction
  · contradiction
  · rfl

/-- A key that is no digit and starts no command of several keys. -/
def Key.StandsAlone (key : Key) : Prop :=
  ∀ c, key = .char c → Text.digit? c = none ∧ Prefix.ofNormalKey? c = none

instance (key : Key) : Decidable key.StandsAlone :=
  match key with
  | .char c =>
      decidable_of_iff (Text.digit? c = none ∧ Prefix.ofNormalKey? c = none)
        ⟨fun alone _ same =>
          Key.char.inj same ▸ alone, fun alone => alone c rfl⟩
  | .escape | .enter | .backspace | .delete | .tab | .left | .right | .up
  | .down | .home | .toEnd | .unidentified =>
      .isTrue fun _ same => Key.noConfusion same

theorem PendingKeys.read_of_standsAlone {keys : PendingKeys}
    (free : keys.waiting = .none) {starts : Char → Option Prefix} {key : Key}
    (alone : ∀ c, key = .char c → Text.digit? c = .none ∧ starts c = .none) :
    keys.read starts key = .single (keys.count.getD 1) := by
  cases key with
  | char c => exact read_alone free (alone c rfl).1 (alone c rfl).2
  | _ => simp [read, free]

namespace Engine

variable {engine : Engine} {event : KeyEvent}

/-!
A key that is pressed again and again, and a count before a key. When each press
is one step of the cursor, a number of presses is a way of as many steps on
which the cursor is put to the nearest place after each step.
-/

theorem nearest_nearest (buffer : Buffer) (kind : ModeKind) (p : Position) :
    nearest buffer kind (nearest buffer kind p) = nearest buffer kind p := by
  simp only [nearest, Nat.min_assoc, Nat.min_self]

theorem moveTo_nearest (engine : Engine) (p : Position) :
    engine.moveTo (nearest engine.buffer engine.mode.kind p) =
      engine.moveTo p := by
  simp only [moveTo, nearest_nearest]

theorem moveTo_moveTo (engine : Engine) (p q : Position) :
    (engine.moveTo p).moveTo q = engine.moveTo q := by
  simp only [moveTo, kind_follow]
  cases engine.mode <;> rfl

theorem withoutKeys_eq_self (bare : engine.mode.keys? = some .none) :
    engine.withoutKeys = engine := by
  rw [withoutKeys, Mode.withKeys_of_keys?_eq_some bare, enter_mode]

theorem reading?_of_standsAlone {keys : PendingKeys}
    (held : engine.mode.keys? = some keys) (free : keys.waiting = none)
    (unmodified : event.modifiers.hasCommand = false)
    (alone : event.key.StandsAlone) :
    engine.reading? event = some (.single (keys.count.getD 1)) := by
  obtain mode | ⟨selection, mode⟩ := Mode.normal_or_visual_of_keys? held
  · rw [reading?_normal mode unmodified, PendingKeys.inTime_of_free free,
      PendingKeys.read_of_standsAlone free alone]
  · rw [reading?_visual mode unmodified, PendingKeys.inTime_of_free free,
      PendingKeys.read_of_standsAlone free fun c key =>
        ⟨(alone c key).1, Prefix.ofVisualKey?_of_ofNormalKey? (alone c key).2⟩]

theorem press_of_standsAlone {keys : PendingKeys}
    (normal : engine.mode = .normal keys) (free : keys.waiting = none)
    (unmodified : event.modifiers.hasCommand = false)
    (alone : event.key.StandsAlone) :
    (engine.press event).engine =
      ((engine.enter (.normal .none)).runNormalKey? event.key
        (keys.count.getD 1)).getD (engine.enter (.normal .none)) :=
  press_of_single_normal normal <|
    reading?_of_standsAlone (congrArg Mode.keys? normal) free unmodified alone

theorem press_of_target {keys : PendingKeys}
    (held : engine.mode.keys? = some keys) (free : keys.waiting = none)
    (unmodified : event.modifiers.hasCommand = false)
    (alone : event.key.StandsAlone) {target : Position}
    (goes : engine.target? event.key (keys.count.getD 1) = some target) :
    (engine.press event).engine = engine.withoutKeys.moveTo target := by
  obtain mode | ⟨selection, mode⟩ := Mode.normal_or_visual_of_keys? held
  · have bare : engine.withoutKeys = engine.enter (.normal .none) := by
      rw [withoutKeys, mode, Mode.withKeys]
    have goes :
        (engine.enter (.normal .none)).target? event.key (keys.count.getD 1) =
          some target := goes
    rw [press_of_standsAlone mode free unmodified alone, bare,
      runNormalKey?, goes]
    rfl
  · have reading := reading?_of_standsAlone held free unmodified alone
    have bare :
        engine.withoutKeys = engine.enter (.visual selection .none) := by
      rw [withoutKeys, mode, Mode.withKeys]
    have goes : (engine.enter (.visual selection .none)).target? event.key
        (keys.count.getD 1) =
      some target := goes
    rw [press_of_single_visual mode reading, bare, runVisualKey?, goes]
    rfl

theorem press_of_bare_target (bare : engine.mode.keys? = some .none)
    (unmodified : event.modifiers.hasCommand = false)
    (alone : event.key.StandsAlone) {target : Position}
    (goes : engine.target? event.key 1 = some target) :
    (engine.press event).engine = engine.moveTo target := by
  rw [press_of_target bare rfl unmodified alone goes, withoutKeys_eq_self bare]

theorem press_of_counted_target (bare : engine.mode.keys? = some .none)
    {n : Nat} (positive : 1 ≤ n) (limited : n ≤ maxCount)
    (unmodified : event.modifiers.hasCommand = false)
    (alone : event.key.StandsAlone) {target : Position}
    (goes : engine.target? event.key n = some target) :
    ((engine.typed (Text.decimal n)).press event).engine =
      engine.moveTo target := by
  let counted := engine.enter (engine.mode.withKeys ⟨some n, none⟩)
  have held : counted.mode.keys? = some ⟨some n, none⟩ :=
    Mode.keys?_withKeys bare _
  have uncounted : counted.withoutKeys = engine := by
    have same := withoutKeys_eq_self bare
    rwa [withoutKeys, ← Mode.withKeys_withKeys _ ⟨some n, none⟩] at same
  rw [typed_decimal bare positive, Nat.min_eq_left limited,
    press_of_target held rfl unmodified alone goes, uncounted]

theorem engine_pressAll_replicate (engine : Engine) (event : KeyEvent)
    (n : Nat) :
    (engine.pressAll (List.replicate n event)).engine =
      (fun engine => (engine.press event).engine)^[n] engine := by
  induction n generalizing engine with
  | zero => rfl
  | succ n ih =>
      rw [List.replicate_succ, Function.iterate_succ_apply]
      exact ih (engine.press event).engine

theorem allows_iterate_nearest {buffer : Buffer} {kind : ModeKind}
    {p : Position} (allowed : buffer.Allows kind p) (step : Position → Position)
    (n : Nat) :
    buffer.Allows kind ((fun p => nearest buffer kind (step p))^[n] p) := by
  have nonempty := Buffer.lines_ne_nil_of_lt allowed.1
  induction n generalizing p with
  | zero => exact allowed
  | succ n ih => exact ih (Buffer.allows_nearest nonempty kind (step p))

/--
Presses that are each one step of the cursor, wherever the presses before have
moved it.
-/
theorem engine_pressAll_of_steps
    (allowed : engine.buffer.Allows engine.mode.kind engine.cursor)
    {step : Position → Position}
    (first : (engine.press event).engine = engine.moveTo (step engine.cursor))
    (next : ∀ p, ((engine.moveTo p).press event).engine =
      (engine.moveTo p).moveTo (step (engine.moveTo p).cursor))
    {n : Nat} (positive : 1 ≤ n) :
    (engine.pressAll (List.replicate n event)).engine =
      engine.moveTo
        ((fun p => nearest engine.buffer engine.mode.kind (step p))^[n]
          engine.cursor) := by
  obtain ⟨n, rfl⟩ := Nat.exists_eq_add_of_le' positive
  clear positive
  rw [engine_pressAll_replicate]
  induction n with
  | zero => exact first.trans (engine.moveTo_nearest _).symm
  | succ n ih =>
      have placed := (allows_iterate_nearest allowed step (n + 1)).nearest_eq
      rw [Function.iterate_succ_apply' _ (n + 1),
        Function.iterate_succ_apply' _ (n + 1), ih, next, cursor_moveTo, placed,
        moveTo_moveTo, moveTo_nearest]

theorem keys?_moveTo (engine : Engine) (p : Position) :
    (engine.moveTo p).mode.keys? = engine.mode.keys? :=
  keys?_follow engine.mode _

theorem engine_pressAll_of_target
    (allowed : engine.buffer.Allows engine.mode.kind engine.cursor)
    (bare : engine.mode.keys? = some .none)
    (unmodified : event.modifiers.hasCommand = false)
    (alone : event.key.StandsAlone) {step : Position → Position}
    (goes : ∀ other : Engine, other.buffer = engine.buffer →
      other.target? event.key 1 = some (step other.cursor))
    {n : Nat} (positive : 1 ≤ n) :
    (engine.pressAll (List.replicate n event)).engine =
      engine.moveTo
        ((fun p => nearest engine.buffer engine.mode.kind (step p))^[n]
          engine.cursor) := by
  refine engine_pressAll_of_steps allowed ?_ (fun p => ?_) positive
  · exact press_of_bare_target bare unmodified alone (goes engine rfl)
  · have bare := (engine.keys?_moveTo p).trans bare
    exact press_of_bare_target bare unmodified alone
      (goes (engine.moveTo p) rfl)

end Engine

end ModalEditing
