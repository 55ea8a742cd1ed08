import ModalEditing.Engine.Operation

namespace ModalEditing

/-- Decides from the snapshots after and before a key whether a step is done. -/
abbrev Validator := Snapshot → Snapshot → Bool

namespace Validator

def cursorAt (p : Position) : Validator :=
  fun current _ => current.cursor == p

def linesEqual (lines : List Line) : Validator :=
  fun current _ => current.lines == lines

def modeIs (mode : ModeKind) : Validator :=
  fun current _ => current.mode == mode

def registerEquals (name : Char) (text : Text) : Validator :=
  fun current _ => current.register? name == some text

def all (validators : List Validator) : Validator :=
  fun current previous => validators.all fun accepts => accepts current previous

end Validator

structure LessonStep where
  instructions : Text
  content : Text
  accepts : Validator

structure Lesson where
  id : Text
  title : Text
  steps : List LessonStep

inductive LessonError where
  | noSteps (id : Text)
  | finished
  | script (error : ScriptError)
  deriving DecidableEq, Repr

def LessonError.message : LessonError → Text
  | noSteps id => "Lesson " ++ id ++ " has no steps".toList
  | finished => "Lesson is already finished"
  | script error => "Invalid key notation: " ++ error.message

inductive LessonOutcome where
  | ignored
  | inProgress
  /-- The step of this number is done, and the next one has started. -/
  | stepComplete (step : Nat)
  | lessonComplete
  deriving DecidableEq, Repr

/-- A lesson that is being taken, with an editor of its own. -/
structure LessonRun where
  lesson : Lesson
  engine : Engine
  /-- The number of the open step, which is the number of steps done. -/
  step : Nat
  finished : Bool

namespace LessonRun

def start (lesson : Lesson) (settings : Settings) :
    Except LessonError LessonRun :=
  match lesson.steps with
  | [] => .error (.noSteps lesson.id)
  | first :: _ =>
      .ok ⟨lesson, ((Engine.fresh settings).loadContent first.content).engine,
        0, false⟩

def openStep? (run : LessonRun) : Option LessonStep :=
  if run.finished then none else run.lesson.steps[run.step]?

/-- Goes on to the next step, whose content replaces what the editor holds. -/
def complete (run : LessonRun) : LessonOutcome × LessonRun :=
  match run.lesson.steps[run.step + 1]? with
  | some next =>
      (.stepComplete run.step,
        { run with
          step := run.step + 1
          engine := (run.engine.loadContent next.content).engine })
  | none =>
      (.lessonComplete, { run with step := run.step + 1, finished := true })

def press (run : LessonRun) (event : KeyEvent) :
    Except LessonError LessonOutcome × KeyEvent × LessonRun :=
  if run.finished then (.error .finished, event, run)
  else
    let pressed := run.engine.press event
    let next := { run with engine := pressed.engine }
    if !pressed.consumed then (.ok .ignored, pressed.event, next)
    else if run.openStep?.any
        (·.accepts pressed.engine.snapshot run.engine.snapshot) then
      let (outcome, next) := next.complete
      (.ok outcome, pressed.event, next)
    else (.ok .inProgress, pressed.event, next)

/--
Presses keys until the lesson is done; the outcome is that of the last key.
-/
def pressAll (run : LessonRun) (outcome : LessonOutcome) :
    List KeyEvent → Except LessonError LessonOutcome × LessonRun
  | [] => (.ok outcome, run)
  | event :: rest =>
      match run.press event with
      | (.error error, _, next) => (.error error, next)
      | (.ok .lessonComplete, _, next) => (.ok .lessonComplete, next)
      | (.ok outcome, _, next) => next.pressAll outcome rest

def typeScript (run : LessonRun) (script : Text) :
    Except LessonError LessonOutcome × LessonRun :=
  match KeyEvent.ofScript script with
  | .error error => (.error (.script error), run)
  | .ok events => run.pressAll .ignored events

def tick (run : LessonRun) (now : Duration) : Bool × LessonRun :=
  let ticked := run.engine.tick now
  (ticked.answer, { run with engine := ticked.engine })

def restartStep (run : LessonRun) : LessonRun :=
  match run.openStep? with
  | some step =>
      { run with engine := (run.engine.loadContent step.content).engine }
  | none => run

end LessonRun

end ModalEditing
