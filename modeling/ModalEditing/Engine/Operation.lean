import ModalEditing.Engine.Keys
import ModalEditing.Key.Script

namespace ModalEditing.Engine

/-!
What a host can do with an editor. Every operation tells the snapshots that it
publishes to a subscriber, the last one of which shows the editor as the
operation leaves it.
-/

/-- An answer, the editor after it, and the snapshots published on the way. -/
structure Outcome (α : Type) where
  answer : α
  engine : Engine
  published : List Snapshot

structure Press where
  consumed : Bool
  event : KeyEvent
  engine : Engine
  published : List Snapshot

def isOverdue (engine : Engine) : Bool :=
  engine.mode.keys?.any (·.isOverdue engine.now)

/-- Drops a prefix whose deadline has come; the count stays. -/
def expire (engine : Engine) : Engine :=
  match engine.mode.keys? with
  | some keys =>
      if keys.isOverdue engine.now then
        engine.enter (engine.mode.withKeys keys.dropPrefix)
      else engine
  | none => engine

def publishIf (engine : Engine) (changed : Bool) : List Snapshot :=
  if changed then [engine.snapshot] else []

def press (engine : Engine) (event : KeyEvent) : Press :=
  let (consumed, next) := engine.expire.dispatch event
  { consumed := consumed
    event := if consumed then event.preventDefault else event
    engine := next
    published := next.publishIf (consumed || engine.isOverdue) }

def pressKey (engine : Engine) (key : Key) : Press :=
  engine.press (.ofKey key)

def pressAll (engine : Engine) : List KeyEvent → Outcome Nat
  | [] => ⟨0, engine, []⟩
  | event :: rest =>
      let first := engine.press event
      let others := first.engine.pressAll rest
      { answer := (if first.consumed then 1 else 0) + others.answer
        engine := others.engine
        published := first.published ++ others.published }

/-- Presses the keys of a script, or none of them if it has an error. -/
def typeScript (engine : Engine) (script : Text) :
    Except ScriptError (Outcome Nat) :=
  (KeyEvent.ofScript script).map engine.pressAll

/--
Sets the clock, which never goes back, and tells whether a prefix was dropped.
-/
def tick (engine : Engine) (now : Duration) : Outcome Bool :=
  let engine := { engine with now := max engine.now now }
  let next := engine.expire
  ⟨engine.isOverdue, next, next.publishIf engine.isOverdue⟩

def advance (engine : Engine) (elapsed : Duration) : Outcome Bool :=
  engine.tick (engine.now + elapsed)

/--
Starts over with other lines; registers, the last search and the message stay.
-/
def loadLines (engine : Engine) (lines : List Line) : Outcome Unit :=
  let next :=
    { engine with
      buffer := .ofLines lines
      cursor := .origin
      mode := .normal .none }
  ⟨(), next, next.publishIf true⟩

def loadContent (engine : Engine) (content : Text) : Outcome Unit :=
  engine.loadLines (Text.contentLines content)

def setCursor (engine : Engine) (p : Position) : Outcome Unit :=
  let next := engine.moveTo p
  ⟨(), next, next.publishIf true⟩

end ModalEditing.Engine
