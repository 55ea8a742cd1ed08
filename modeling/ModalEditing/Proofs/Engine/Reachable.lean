import ModalEditing.Engine.Operation

namespace ModalEditing

/-- What a host can ask of an editor. -/
inductive Operation where
  | press (event : KeyEvent)
  | pressKey (key : Key)
  | typeScript (script : Text)
  | tick (now : Duration)
  | advance (elapsed : Duration)
  | loadContent (content : Text)
  | loadLines (lines : List Line)
  | setCursor (p : Position)

namespace Engine

/-!
Runs of an editor: the operations of its host one after another, in any order.
-/

def apply (engine : Engine) : Operation → Outcome Unit
  | .press event =>
      let press := engine.press event
      ⟨(), press.engine, press.published⟩
  | .pressKey key =>
      let press := engine.pressKey key
      ⟨(), press.engine, press.published⟩
  | .typeScript script =>
      match engine.typeScript script with
      | .ok typed => ⟨(), typed.engine, typed.published⟩
      | .error _ => ⟨(), engine, []⟩
  | .tick now =>
      let ticked := engine.tick now
      ⟨(), ticked.engine, ticked.published⟩
  | .advance elapsed =>
      let ticked := engine.advance elapsed
      ⟨(), ticked.engine, ticked.published⟩
  | .loadContent content => engine.loadContent content
  | .loadLines lines => engine.loadLines lines
  | .setCursor p => engine.setCursor p

def run (engine : Engine) (operations : List Operation) : Engine :=
  operations.foldl (fun engine operation =>
    (engine.apply operation).engine) engine

/-- The states that a new editor gets to. -/
inductive Reachable : Engine → Prop where
  | fresh (settings : Settings) : Reachable (fresh settings)
  | ofContent (content : Text) : Reachable (ofContent content)
  | apply {engine : Engine} (reachable : Reachable engine)
      (operation : Operation) :
      Reachable (engine.apply operation).engine

theorem Reachable.run {engine : Engine} (reachable : Reachable engine)
    (operations : List Operation) : Reachable (engine.run operations) := by
  induction operations generalizing engine with
  | nil => exact reachable
  | cons operation rest ih => exact ih (reachable.apply operation)

theorem pressAll_preserves {P : Engine → Prop}
    (press : ∀ {engine : Engine} (event : KeyEvent), P engine →
      P (engine.press event).engine)
    {engine : Engine} (holds : P engine) (events : List KeyEvent) :
    P (engine.pressAll events).engine := by
  induction events generalizing engine with
  | nil => exact holds
  | cons event rest ih => exact ih (press event holds)

/--
A property of new editors that key presses, ticks, loading and the host's cursor
preserve.
-/
theorem Reachable.invariant {P : Engine → Prop}
    (fresh : ∀ settings, P (Engine.fresh settings))
    (ofContent : ∀ content, P (Engine.ofContent content))
    (press : ∀ {engine : Engine} (event : KeyEvent), P engine →
      P (engine.press event).engine)
    (tick : ∀ {engine : Engine} (now : Duration), P engine →
      P (engine.tick now).engine)
    (loadLines : ∀ {engine : Engine} (lines : List Line), P engine →
      P (engine.loadLines lines).engine)
    (setCursor : ∀ {engine : Engine} (p : Position), P engine →
      P (engine.setCursor p).engine)
    {engine : Engine} (reachable : Reachable engine) : P engine := by
  induction reachable with
  | fresh settings => exact fresh settings
  | ofContent content => exact ofContent content
  | apply _ operation ih =>
      cases operation with
      | press event => exact press event ih
      | pressKey key => exact press (.ofKey key) ih
      | typeScript script =>
          simp only [Engine.apply, typeScript]
          cases KeyEvent.ofScript script with
          | ok events => exact pressAll_preserves press ih events
          | error _ => exact ih
      | tick now => exact tick now ih
      | advance elapsed => exact tick _ ih
      | loadContent content => exact loadLines (Text.contentLines content) ih
      | loadLines lines => exact loadLines lines ih
      | setCursor p => exact setCursor p ih

end Engine

end ModalEditing
