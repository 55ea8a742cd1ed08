import ModalEditing.Proofs.Checked.Keys
import ModalEditing.Proofs.Engine.SettingsFrame

namespace ModalEditing.Engine

open Checked

/-!
The operations of a host, with the partial operations that they are made of.
-/

def tryPress (engine : Engine) (event : KeyEvent) : Checked Press := do
  let (consumed, next) ← engine.expire.tryDispatch event
  return {
    consumed := consumed
    event := if consumed then event.preventDefault else event
    engine := next
    published := next.publishIf (consumed || engine.isOverdue) }

def tryPressAll (engine : Engine) : List KeyEvent → Checked (Outcome Nat)
  | [] => pure ⟨0, engine, []⟩
  | event :: rest => do
      let first ← engine.tryPress event
      let others ← first.engine.tryPressAll rest
      return {
        answer := (if first.consumed then 1 else 0) + others.answer
        engine := others.engine
        published := first.published ++ others.published }

def tryApply (engine : Engine) : Operation → Checked (Outcome Unit)
  | .press event => do
      let press ← engine.tryPress event
      return ⟨(), press.engine, press.published⟩
  | .pressKey key => do
      let press ← engine.tryPress (.ofKey key)
      return ⟨(), press.engine, press.published⟩
  | .typeScript script =>
      match KeyEvent.ofScript script with
      | .ok events => do
          let typed ← engine.tryPressAll events
          return ⟨(), typed.engine, typed.published⟩
      | .error _ => pure ⟨(), engine, []⟩
  | .setCursor p => do
      let next ← engine.tryMoveTo p
      return ⟨(), next, next.publishIf true⟩
  | operation => pure (engine.apply operation)

/-- The states that keys are pressed in, one after another. -/
def pressedIn (engine : Engine) : List KeyEvent → List Engine
  | [] => []
  | event :: rest => engine :: (engine.press event).engine.pressedIn rest

/--
The states that an operation starts from: the keys of a script start from one
each.
-/
def startsFrom (engine : Engine) : Operation → List Engine
  | .typeScript script =>
      match KeyEvent.ofScript script with
      | .ok events => engine.pressedIn events
      | .error _ => []
  | _ => [engine]

variable {engine : Engine}

theorem tabWidth_le_of_valid {settings : Settings}
    (valid : settings.fault? = none) : settings.tabWidth ≤ 16 := by
  unfold Settings.fault? at valid
  split at valid
  · contradiction
  · split at valid
    · contradiction
    · exact Nat.le_of_not_lt ‹_›

theorem Sized.expire (sized : engine.Sized) : engine.expire.Sized := by
  obtain ⟨keys, expired⟩ := engine.exists_expire_eq
  rw [expired]
  exact ⟨sized.buffer, sized.stored⟩

theorem tryPress_eq (coherent : engine.Coherent)
    (valid : engine.settings.fault? = none) (sized : engine.Sized)
    (event : KeyEvent) : engine.tryPress event = pure (engine.press event) := by
  have narrow : engine.expire.settings.tabWidth ≤ 16 := by
    rw [settings_expire]
    exact tabWidth_le_of_valid valid
  unfold tryPress
  rw [tryDispatch_eq coherent.expire sized.expire narrow]
  rfl

theorem tryPressAll_eq (coherent : engine.Coherent)
    (valid : engine.settings.fault? = none) {events : List KeyEvent}
    (sized : ∀ state ∈ engine.pressedIn events, state.Sized) :
    engine.tryPressAll events = pure (engine.pressAll events) := by
  induction events generalizing engine with
  | nil => rfl
  | cons event rest ih =>
      obtain ⟨here, later⟩ := List.forall_mem_cons.mp sized
      have kept : (engine.press event).engine.settings.fault? = none := by
        rwa [settings_press]
      unfold tryPressAll
      rw [tryPress_eq coherent valid here, pure_bind,
        ih (coherent.press event) kept later]
      rfl

/--
No partial operation of an editor is used outside of its domain: in a state that
a host can get to, with settings that are valid, every operation has a result,
and it is the one without faults. The states may have up to 2147483647 lines,
where the counter of a substitution, a signed half word, comes to its limit;
their lines and stored texts are far below the limits of whole words.
-/
theorem Reachable.tryApply_eq (reachable : Reachable engine)
    (valid : engine.settings.fault? = none) (operation : Operation)
    (sized : ∀ state ∈ engine.startsFrom operation, state.Sized) :
    engine.tryApply operation = .ok (engine.apply operation) := by
  have coherent := reachable.coherent
  cases operation with
  | press event =>
      rw [tryApply, tryPress_eq coherent valid
        (sized engine (List.mem_singleton_self engine))]
      rfl
  | pressKey key =>
      rw [tryApply, tryPress_eq coherent valid
        (sized engine (List.mem_singleton_self engine))]
      rfl
  | typeScript script =>
      rw [startsFrom] at sized
      rw [tryApply, Engine.apply, typeScript]
      cases read : KeyEvent.ofScript script with
      | error _ => rfl
      | ok events =>
          rw [read] at sized
          dsimp only
          rw [tryPressAll_eq coherent valid sized]
          rfl
  | setCursor p =>
      rw [tryApply, tryMoveTo_eq coherent.lines_ne_nil]
      rfl
  | tick | advance | loadContent | loadLines => rfl

/--
A script that deletes a selection, pastes, types, joins, changes, replaces and
searches.
-/
theorem tryApply_eq_after_delete_and_paste :
    let engine :=
      (ofContent "one two\nthree").run
        [.pressKey (.char 'V'), .pressKey (.char 'j')]
    let script : Text :=
      "dP$i<Tab><CR><BS>\"<Esc>Jcwfour<Esc>v0y3p:%s/o/0/g<CR>/ee<CR>2n"
    Reachable engine ∧ engine.settings.fault? = none ∧
      (∀ state ∈ engine.startsFrom (.typeScript script), state.Sized) ∧
      engine.tryApply (.typeScript script) =
        .ok (engine.apply (.typeScript script)) := by
  have reachable := (Reachable.ofContent "one two\nthree").run
    [.pressKey (.char 'V'), .pressKey (.char 'j')]
  have valid : ((ofContent "one two\nthree").run
      [.pressKey (.char 'V'), .pressKey (.char 'j')]).settings.fault? =
        none := by
    decide +kernel
  have sized : ∀ state ∈ ((ofContent "one two\nthree").run
      [.pressKey (.char 'V'), .pressKey (.char 'j')]).startsFrom
        (.typeScript
          "dP$i<Tab><CR><BS>\"<Esc>Jcwfour<Esc>v0y3p:%s/o/0/g<CR>/ee<CR>2n"),
      state.Sized := by
    decide +kernel
  exact ⟨reachable, valid, sized, reachable.tryApply_eq valid _ sized⟩

end ModalEditing.Engine
