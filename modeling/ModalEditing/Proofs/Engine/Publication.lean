import ModalEditing.Proofs.Engine.Press
import ModalEditing.Proofs.Engine.Reachable

namespace ModalEditing

theorem PendingKeys.display_eq_nil_iff (keys : PendingKeys) :
    keys.display = [] ↔ keys = .none := by
  obtain ⟨count, waiting⟩ := keys
  cases count with
  | some count => simp [display, none, Text.decimal, Nat.toDigits_ne_nil]
  | none =>
      cases waiting with
      | none => simp [display, none]
      | some waiting =>
          cases held : waiting.held <;> simp [display, none, held, Prefix.keys]

def Operation.events : Operation → List KeyEvent
  | .press event => [event]
  | .pressKey key => [.ofKey key]
  | .typeScript script => (KeyEvent.ofScript script).toOption.getD []
  | _ => []

namespace Engine

variable {engine : Engine}

/-! What a subscriber gets to know of an operation. -/

/--
The keys that an editor shows as pending go away with a key that is left to the
host.
-/
structure LosesKeys (engine : Engine) (event : KeyEvent) : Prop where
  bare : event.modifiers.hasCommand = false
  refused : (engine.press event).consumed = false
  timely : engine.isOverdue = false
  pending : ∃ keys, engine.mode.keys? = some keys ∧ keys ≠ .none

def KeepsKeys (engine : Engine) : List KeyEvent → Prop
  | [] => True
  | event :: rest =>
      ¬ engine.LosesKeys event ∧ (engine.press event).engine.KeepsKeys rest

def KeepsKeysThroughout (engine : Engine) : List Operation → Prop
  | [] => True
  | operation :: rest =>
      engine.KeepsKeys operation.events ∧
        (engine.apply operation).engine.KeepsKeysThroughout rest

/-- What a host shows that draws each snapshot published to it. -/
def screenAfter (screen : Snapshot) (published : List Snapshot) : Snapshot :=
  published.getLast?.getD screen

def screenAfterRun (engine : Engine)
    (screen : Snapshot) : List Operation → Snapshot
  | [] => screen
  | operation :: rest =>
      let outcome := engine.apply operation
      outcome.engine.screenAfterRun (screenAfter screen outcome.published) rest

@[simp] theorem screenAfter_append (screen : Snapshot)
    (first others : List Snapshot) :
    screenAfter screen (first ++ others) =
      screenAfter (screenAfter screen first) others := by
  simp [screenAfter, List.getLast?_append]

theorem screenAfter_publishIf (screen : Snapshot) (changed : Bool) :
    screenAfter screen (engine.publishIf changed) = engine.snapshot ↔
      (changed = false → engine.snapshot = screen) := by
  cases changed <;> simp [screenAfter, publishIf, eq_comm]

theorem getLast?_publishIf (screen : Snapshot) (changed : Bool) :
    (engine.snapshot ≠ screen →
        (engine.publishIf changed).getLast? = some engine.snapshot) ↔
      (changed = false → engine.snapshot = screen) := by
  cases changed <;> simp [publishIf]

theorem snapshot_withoutKeys_eq_iff :
    (engine.enter (engine.mode.withKeys .none)).snapshot = engine.snapshot ↔
      ∀ keys, engine.mode.keys? = some keys → keys = .none := by
  have shown :
      (engine.enter (engine.mode.withKeys .none)).snapshot = engine.snapshot ↔
        (engine.mode.withKeys .none).commandArea = engine.mode.commandArea := by
    simp [snapshot, enter]
  rw [shown]
  cases engine.mode with
  | normal keys =>
      simp only [Mode.withKeys, Mode.commandArea, Mode.keys?,
        PendingKeys.display_none, Option.some.injEq, forall_eq']
      exact eq_comm.trans keys.display_eq_nil_iff
  | insert => simp [Mode.withKeys, Mode.keys?]
  | visual selection keys =>
      simp only [Mode.withKeys, Mode.commandArea, Mode.keys?,
        PendingKeys.display_none, Option.some.injEq, forall_eq']
      exact eq_comm.trans keys.display_eq_nil_iff
  | command line => simp [Mode.withKeys, Mode.keys?]

theorem snapshot_press_eq_iff {event : KeyEvent}
    (refused : (engine.press event).consumed = false)
    (timely : engine.isOverdue = false) :
    (engine.press event).engine.snapshot = engine.snapshot ↔
      ¬ engine.LosesKeys event := by
  rw [press_of_refused timely refused]
  cases modified : event.modifiers.hasCommand with
  | true =>
      refine iff_of_true rfl ?_
      rintro ⟨bare, _⟩
      simp [modified] at bare
  | false =>
      rw [if_neg Bool.false_ne_true, snapshot_withoutKeys_eq_iff]
      constructor
      · rintro free ⟨_, _, _, keys, held, pending⟩
        exact pending (free keys held)
      · intro keeps keys held
        refine Decidable.byContradiction fun pending => ?_
        exact keeps ⟨modified, refused, timely, keys, held, pending⟩

theorem press_silent_iff (engine : Engine) (event : KeyEvent) :
    (((engine.press event).consumed || engine.isOverdue) = false →
        (engine.press event).engine.snapshot = engine.snapshot) ↔
      ¬ engine.LosesKeys event := by
  constructor
  · intro unchanged loses
    have silent :
        ((engine.press event).consumed || engine.isOverdue) = false := by
      simp [loses.refused, loses.timely]
    exact (snapshot_press_eq_iff loses.refused loses.timely).mp
      (unchanged silent) loses
  · intro keeps silent
    obtain ⟨refused, timely⟩ := Bool.or_eq_false_iff.mp silent
    exact (snapshot_press_eq_iff refused timely).mpr keeps

theorem tick_silent (engine : Engine) (now : Duration)
    (timely : (engine.tick now).answer = false) :
    (engine.tick now).engine.snapshot = engine.snapshot := by
  have unexpired := expire_of_timely timely
  simp only [tick, unexpired]
  rfl

theorem screenAfter_press {event : KeyEvent}
    (keeps : ¬ engine.LosesKeys event) :
    screenAfter engine.snapshot (engine.press event).published =
      (engine.press event).engine.snapshot :=
  (screenAfter_publishIf _ _).mpr ((press_silent_iff engine event).mpr keeps)

theorem screenAfter_pressAll {events : List KeyEvent}
    (keeps : engine.KeepsKeys events) :
    screenAfter engine.snapshot (engine.pressAll events).published =
      (engine.pressAll events).engine.snapshot := by
  induction events generalizing engine with
  | nil => rfl
  | cons event rest ih =>
      obtain ⟨kept, others⟩ := keeps
      simp only [pressAll, screenAfter_append]
      rw [screenAfter_press kept]
      exact ih others

theorem screenAfter_tick (engine : Engine) (now : Duration) :
    screenAfter engine.snapshot (engine.tick now).published =
      (engine.tick now).engine.snapshot :=
  (screenAfter_publishIf _ _).mpr (tick_silent engine now)

theorem screenAfter_apply {operation : Operation}
    (keeps : engine.KeepsKeys operation.events) :
    screenAfter engine.snapshot (engine.apply operation).published =
      (engine.apply operation).engine.snapshot := by
  cases operation with
  | press event => exact screenAfter_press keeps.1
  | pressKey key => exact screenAfter_press keeps.1
  | typeScript script =>
      simp only [Operation.events] at keeps
      simp only [apply, typeScript]
      cases read : KeyEvent.ofScript script with
      | ok events =>
          rw [read] at keeps
          exact screenAfter_pressAll keeps
      | error _ => rfl
  | tick now => exact screenAfter_tick engine now
  | advance elapsed => exact screenAfter_tick engine _
  | loadContent content => rfl
  | loadLines lines => rfl
  | setCursor p => rfl

/--
A host that draws what is published to it shows the editor as long as no key
loses others.
-/
theorem screenAfterRun_eq_snapshot {operations : List Operation}
    (keeps : engine.KeepsKeysThroughout operations) :
    engine.screenAfterRun engine.snapshot operations =
      (engine.run operations).snapshot := by
  induction operations generalizing engine with
  | nil => rfl
  | cons operation rest ih =>
      obtain ⟨kept, others⟩ := keeps
      simp only [screenAfterRun]
      rw [screenAfter_apply kept]
      exact ih others

/--
A change that can be seen is published, with nothing published after it, unless
it is the loss of pending keys to a key that is left to the host.
-/
theorem change_published_iff (engine : Engine) (operation : Operation)
    (single : ∀ script, operation ≠ .typeScript script) :
    ((engine.apply operation).engine.snapshot ≠ engine.snapshot →
        (engine.apply operation).published.getLast? =
          some (engine.apply operation).engine.snapshot) ↔
      ∀ event ∈ operation.events, ¬ engine.LosesKeys event := by
  cases operation with
  | press event =>
      simp only [Operation.events, List.forall_mem_singleton]
      exact (getLast?_publishIf _ _).trans (press_silent_iff engine event)
  | pressKey key =>
      simp only [Operation.events, List.forall_mem_singleton]
      exact (getLast?_publishIf _ _).trans
        (press_silent_iff engine (.ofKey key))
  | typeScript script => exact absurd rfl (single script)
  | tick now =>
      refine iff_of_true ?_ (by simp [Operation.events])
      exact (getLast?_publishIf _ _).mpr (tick_silent engine now)
  | advance elapsed =>
      refine iff_of_true ?_ (by simp [Operation.events])
      exact (getLast?_publishIf _ _).mpr (tick_silent engine _)
  | loadContent content =>
      exact iff_of_true (fun _ => rfl) (by simp [Operation.events])
  | loadLines lines =>
      exact iff_of_true (fun _ => rfl) (by simp [Operation.events])
  | setCursor p => exact iff_of_true (fun _ => rfl) (by simp [Operation.events])

/-- A subscriber hears of a deleted character. -/
theorem change_published_by_delete :
    let engine := ofContent "ab"
    let operation := Operation.pressKey (.char 'x')
    (∀ script, operation ≠ .typeScript script) ∧
      (engine.apply operation).engine.snapshot ≠ engine.snapshot ∧
      (engine.apply operation).published.getLast? =
        some (engine.apply operation).engine.snapshot := by
  have changed :
      ((ofContent "ab").apply (.pressKey (.char 'x'))).engine.snapshot ≠
        (ofContent "ab").snapshot := by
    decide +kernel
  refine ⟨fun _ => Operation.noConfusion, changed, ?_⟩
  refine (change_published_iff _ _ fun _ =>
    Operation.noConfusion).mpr ?_ changed
  rintro event member ⟨_, refused, _, _⟩
  obtain rfl := List.mem_singleton.mp member
  exact absurd refused (by decide +kernel)

/--
A digit after `d` takes the `d` away from the command area, and no subscriber
hears of it.
-/
theorem digit_after_delete_not_published :
    let engine := (ofContent "ab").run [.pressKey (.char 'd')]
    let operation := Operation.pressKey (.char '1')
    Reachable engine ∧
      ¬ ((engine.apply operation).engine.snapshot ≠ engine.snapshot →
        (engine.apply operation).published.getLast? =
          some (engine.apply operation).engine.snapshot) := by
  have changed : (((ofContent "ab").run [.pressKey (.char 'd')]).apply
      (.pressKey (.char '1'))).engine.snapshot ≠
        ((ofContent "ab").run [.pressKey (.char 'd')]).snapshot := by
    decide +kernel
  have silent : (((ofContent "ab").run [.pressKey (.char 'd')]).apply
      (.pressKey (.char '1'))).published = [] := by
    decide +kernel
  refine ⟨(Reachable.ofContent _).run _, fun published => ?_⟩
  have last := published changed
  rw [silent] at last
  contradiction

end Engine

end ModalEditing
