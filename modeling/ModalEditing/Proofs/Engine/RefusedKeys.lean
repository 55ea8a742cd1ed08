import ModalEditing.Proofs.Engine.Press
import ModalEditing.Proofs.Engine.Reachable

namespace ModalEditing.Engine

variable {engine : Engine} {event : KeyEvent}

/-!
What a key does that is left to the host, and which modifiers leave a key to it.
-/

theorem snapshot_enter_withKeys_none (engine : Engine) :
    (engine.enter (engine.mode.withKeys .none)).snapshot =
      { engine.snapshot with
        commandArea :=
          if engine.mode.kind = .insert ∨ engine.mode.kind = .command then
            engine.snapshot.commandArea
          else [] } := by
  unfold snapshot enter
  cases engine.mode <;>
    simp [Mode.withKeys, Mode.kind, Mode.selection?, Mode.commandArea]

@[simp] theorem kind_expire (engine : Engine) :
    engine.expire.mode.kind = engine.mode.kind := by
  obtain ⟨keys, expired⟩ := engine.exists_expire_eq
  rw [expired]
  exact Mode.kind_withKeys _ keys

/-- With a modifier one key only is not left to the host. -/
theorem consumed_press_iff (modified : event.modifiers.hasCommand = true) :
    (engine.press event).consumed = true ↔
      event.key = .char 'r' ∧ event.modifiers.isCtrl = true ∧
        engine.mode.kind = .normal := by
  have dispatched :
      (engine.press event).consumed = (engine.expire.dispatch event).1 :=
    rfl
  rw [dispatched, dispatch, if_pos modified]
  split
  · rename_i redo
    simpa [and_assoc] using redo
  · rename_i other
    simpa [and_assoc] using other

theorem press_engine_of_redo (timely : engine.isOverdue = false)
    (modified : event.modifiers.hasCommand = true)
    (consumed : (engine.press event).consumed = true) :
    (engine.press event).engine = engine.say .noRedo := by
  obtain ⟨key, ctrl, normal⟩ := (consumed_press_iff modified).mp consumed
  simp [press, expire_of_timely timely, dispatch, modified, key, ctrl, normal]

theorem press_with_modifiers (engine : Engine)
    (bare : event.modifiers.hasCommand = false) {modifiers : Modifiers}
    (others : modifiers.hasCommand = false) :
    engine.press { event with modifiers := modifiers } =
      { engine.press event with
        event :=
          { (engine.press event).event with modifiers := modifiers } } := by
  have same : engine.expire.dispatch { event with modifiers := modifiers } =
      engine.expire.dispatch event := by
    simp only [dispatch, bare, others, Bool.false_eq_true, if_false]
  simp only [press, same]
  cases (engine.expire.dispatch event).1 <;> rfl

/--
A key that is left to the host goes to it as it came, and changes nothing that
can be seen but the pending keys, which go away unless it comes with a modifier.
With one, only the key of the redo is not left to the host, and it only says
that there is none. Other modifiers make no difference.
-/
theorem refused_keys_inert (engine : Engine) (event : KeyEvent) :
    (engine.isOverdue = false → (engine.press event).consumed = false →
      (engine.press event).event = event ∧
      (engine.press event).engine.snapshot =
        { engine.snapshot with
          commandArea :=
            if event.modifiers.hasCommand = true ∨ engine.mode.kind = .insert ∨
                engine.mode.kind = .command then
              engine.snapshot.commandArea
            else [] }) ∧
    (event.modifiers.hasCommand = true →
      ((engine.press event).consumed = true ↔
        event.key = .char 'r' ∧ event.modifiers.isCtrl = true ∧
          engine.mode.kind = .normal) ∧
      (engine.isOverdue = false → (engine.press event).consumed = true →
        (engine.press event).engine = engine.say .noRedo)) ∧
    (event.modifiers.hasCommand = false →
      ∀ modifiers : Modifiers, modifiers.hasCommand = false →
        engine.press { event with modifiers := modifiers } =
          { engine.press event with
            event :=
              { (engine.press event).event with
                modifiers := modifiers } }) := by
  refine ⟨fun timely refused => ?_, fun modified => ?_,
    fun bare modifiers others => ?_⟩
  · rw [press_of_refused timely refused]
    refine ⟨rfl, ?_⟩
    cases modified : event.modifiers.hasCommand with
    | true => simp
    | false => simp [snapshot_enter_withKeys_none]
  · exact ⟨consumed_press_iff modified, fun timely =>
      press_engine_of_redo timely modified⟩
  · exact press_with_modifiers engine bare others

/--
A count goes away with a key that nothing is bound to, and stays with a redo.
-/
theorem refused_keys_inert_after_count :
    let engine := (ofContent "ab").run [.pressKey (.char '2')]
    (engine.isOverdue = false ∧ (engine.press (.char 'z')).consumed = false ∧
        (engine.press (.ctrl 'r')).consumed = true ∧
        engine.snapshot.commandArea = ['2']) ∧
      (engine.press (.char 'z')).engine.snapshot =
        { engine.snapshot with commandArea := [] } ∧
      (engine.press (.ctrl 'r')).engine = engine.say .noRedo ∧
      engine.press ⟨.char 'z', .shift, false⟩ =
        { engine.press (.char 'z') with
          event := ⟨.char 'z', .shift, false⟩ } := by
  intro engine
  have timely : engine.isOverdue = false := by decide +kernel
  have refused : (engine.press (.char 'z')).consumed = false := by
    decide +kernel
  have redo : (engine.press (.ctrl 'r')).consumed = true := by decide +kernel
  obtain ⟨inert, -, shifted⟩ := refused_keys_inert engine (.char 'z')
  obtain ⟨unchanged, shown⟩ := inert timely refused
  obtain ⟨-, said⟩ := (refused_keys_inert engine (.ctrl 'r')).2.1 rfl
  refine ⟨⟨timely, refused, redo, by decide +kernel⟩, shown,
    said timely redo, ?_⟩
  have pressed := shifted rfl .shift rfl
  rw [unchanged] at pressed
  exact pressed

end ModalEditing.Engine
