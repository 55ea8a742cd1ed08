import ModalEditing.Engine.Operation

namespace ModalEditing

/-- An editor to practise with, which can be put back to where it started. -/
structure Sandbox where
  settings : Settings
  initial : Text
  engine : Engine
  deriving DecidableEq

namespace Sandbox

def start (settings : Settings) (content : Text) : Sandbox :=
  ⟨settings, content, ((Engine.fresh settings).loadContent content).engine⟩

def reset (sandbox : Sandbox) : Sandbox :=
  start sandbox.settings sandbox.initial

def replaceContent (sandbox : Sandbox) (content : Text) : Sandbox :=
  start sandbox.settings content

def snapshot (sandbox : Sandbox) : Snapshot :=
  sandbox.engine.snapshot

def tick (sandbox : Sandbox) (now : Duration) : Sandbox :=
  { sandbox with engine := (sandbox.engine.tick now).engine }

def typeScript (sandbox : Sandbox) (script : Text) :
    Except ScriptError (Nat × Sandbox) :=
  (sandbox.engine.typeScript script).map fun typed =>
    (typed.answer, { sandbox with engine := typed.engine })

end Sandbox

end ModalEditing
