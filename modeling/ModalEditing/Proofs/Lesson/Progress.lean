import ModalEditing.Lesson

namespace ModalEditing

inductive LessonOperation where
  | press (event : KeyEvent)
  | typeScript (script : Text)
  | tick (now : Duration)
  | restartStep

abbrev LessonAnswer := Except LessonError LessonOutcome

def LessonOutcome.isCompletion : LessonOutcome → Bool
  | stepComplete _ | lessonComplete => true
  | ignored | inProgress => false

namespace Lesson

/--
What tells that the steps of a lesson are done, from the first step to the last
one.
-/
def completions (lesson : Lesson) : List LessonOutcome :=
  (List.range (lesson.steps.length - 1)).map .stepComplete ++ [.lessonComplete]

variable {lesson : Lesson} {step : Nat}

theorem completions_getElem?_of_next (more : step + 1 < lesson.steps.length) :
    lesson.completions[step]? = some (.stepComplete step) := by
  have inside : step < lesson.steps.length - 1 := by omega
  rw [completions, List.getElem?_append_left (by simpa using inside)]
  simp [inside]

theorem completions_getElem?_of_last (last : step + 1 = lesson.steps.length) :
    lesson.completions[step]? = some .lessonComplete := by
  rw [completions, List.getElem?_append_right (by simp; omega)]
  simp [← last]

end Lesson

namespace LessonRun

/-!
The progress of a lesson. Its steps are done one after another and only by keys,
whatever else is asked of it in between.
-/

variable {lesson : Lesson} {run : LessonRun}

def completed (answers : List LessonAnswer) : List LessonOutcome :=
  answers.filterMap fun answer => answer.toOption.filter (·.isCompletion)

/--
The editor consumes a key, and the open step's validator accepts what the key
changes.
-/
def Completes (run : LessonRun) (event : KeyEvent) : Prop :=
  (run.engine.press event).consumed = true ∧
    ∃ step, run.openStep? = some step ∧
      step.accepts (run.engine.press event).engine.snapshot
        run.engine.snapshot = true

/-- Every way in which a lesson can answer a key. -/
inductive Pressed (run : LessonRun) (event : KeyEvent) :
    LessonAnswer × KeyEvent × LessonRun → Prop where
  | refused (finished : run.finished = true) :
      Pressed run event (.error .finished, event, run)
  | kept {outcome : LessonOutcome} (opened : run.finished = false)
      (incomplete : ¬ run.Completes event)
      (quiet : outcome.isCompletion = false) :
      Pressed run event (.ok outcome, (run.engine.press event).event,
        { run with engine := (run.engine.press event).engine })
  | advanced {next : LessonStep} (opened : run.finished = false)
      (completes : run.Completes event)
      (more : run.lesson.steps[run.step + 1]? = some next) :
      Pressed run event (.ok (.stepComplete run.step),
        (run.engine.press event).event,
        { run with
          engine :=
            ((run.engine.press event).engine.loadContent next.content).engine
          step := run.step + 1 })
  | ended (opened : run.finished = false) (completes : run.Completes event)
      (last : run.lesson.steps[run.step + 1]? = none) :
      Pressed run event (.ok .lessonComplete, (run.engine.press event).event,
        { run with
          engine := (run.engine.press event).engine
          step := run.step + 1
          finished := true })

theorem pressed_press (run : LessonRun) (event : KeyEvent) :
    Pressed run event (run.press event) := by
  unfold press
  split
  · exact .refused ‹_›
  · rename_i opened
    have opened := Bool.eq_false_iff.mpr opened
    dsimp only
    split
    · rename_i ignored
      refine .kept opened ?_ rfl
      rintro ⟨consumed, -⟩
      simp [consumed] at ignored
    · rename_i consumed
      have consumed : (run.engine.press event).consumed = true := by
        simpa using consumed
      split
      · rename_i accepted
        have completes : run.Completes event :=
          ⟨consumed, (Option.any_eq_true _ _).mp accepted⟩
        unfold complete
        split
        · exact .advanced opened completes ‹_›
        · exact .ended opened completes ‹_›
      · rename_i rejected
        refine .kept opened ?_ rfl
        rintro ⟨-, step, isOpen, accepts⟩
        exact rejected ((Option.any_eq_true _ _).mpr ⟨step, isOpen, accepts⟩)

theorem openStep?_of_finished (finished : run.finished = true) :
    run.openStep? = none :=
  if_pos finished

theorem step_press (run : LessonRun) (event : KeyEvent) :
    (run.Completes event → (run.press event).2.2.step = run.step + 1) ∧
      (¬ run.Completes event → (run.press event).2.2.step = run.step) := by
  have pressed := run.pressed_press event
  generalize run.press event = result at pressed ⊢
  cases pressed with
  | refused finished =>
      refine ⟨?_, fun _ => rfl⟩
      rintro ⟨-, step, isOpen, -⟩
      rw [openStep?_of_finished finished] at isOpen
      contradiction
  | kept _ incomplete _ =>
      exact ⟨fun completes => absurd completes incomplete, fun _ => rfl⟩
  | advanced _ completes _ =>
      exact ⟨fun _ => rfl, fun incomplete => absurd completes incomplete⟩
  | ended _ completes _ =>
      exact ⟨fun _ => rfl, fun incomplete => absurd completes incomplete⟩

/--
A run of a lesson counts the steps that are done, and is finished when all of
them are.
-/
structure Follows (run : LessonRun) (lesson : Lesson) : Prop where
  lesson_eq : run.lesson = lesson
  step_le : run.step ≤ lesson.steps.length
  finished_iff : run.finished = true ↔ run.step = lesson.steps.length

theorem Follows.lt_of_opened (follows : run.Follows lesson)
    (opened : run.finished = false) : run.step < lesson.steps.length := by
  have unfinished : run.step ≠ lesson.steps.length := fun all =>
    Bool.false_ne_true (opened.symm.trans (follows.finished_iff.mpr all))
  exact Nat.lt_of_le_of_ne follows.step_le unfinished

theorem Follows.openStep?_eq_none_iff (follows : run.Follows lesson) :
    run.openStep? = none ↔ run.finished = true := by
  unfold openStep?
  cases opened : run.finished with
  | true => simp
  | false =>
      have lt := follows.lt_of_opened opened
      simp [follows.lesson_eq, lt]

theorem follows_press (follows : run.Follows lesson) (event : KeyEvent) :
    (run.press event).2.2.Follows lesson := by
  have pressed := run.pressed_press event
  generalize run.press event = result at pressed ⊢
  obtain ⟨rfl, le, finished⟩ := follows
  cases pressed with
  | refused _ => exact ⟨rfl, le, finished⟩
  | kept _ _ _ => exact ⟨rfl, le, finished⟩
  | advanced opened _ more =>
      obtain ⟨lt, -⟩ := List.getElem?_eq_some_iff.mp more
      refine ⟨rfl, Nat.le_of_lt lt, ?_⟩
      simp only [opened, Bool.false_eq_true, false_iff]
      exact Nat.ne_of_lt lt
  | ended opened _ last =>
      have ge := List.getElem?_eq_none_iff.mp last
      have lt := Follows.lt_of_opened ⟨rfl, le, finished⟩ opened
      refine ⟨rfl, lt, ?_⟩
      simp only [true_iff]
      exact Nat.le_antisymm lt ge

theorem follows_restartStep (follows : run.Follows lesson) :
    run.restartStep.Follows lesson := by
  unfold restartStep
  split
  · exact ⟨follows.lesson_eq, follows.step_le, follows.finished_iff⟩
  · exact follows

theorem completed_press (follows : run.Follows lesson) (event : KeyEvent) :
    lesson.completions.take run.step ++ completed [(run.press event).1] =
      lesson.completions.take (run.press event).2.2.step := by
  have pressed := run.pressed_press event
  generalize run.press event = result at pressed ⊢
  cases pressed with
  | refused _ => exact List.append_nil _
  | kept _ _ quiet =>
      simp [completed, Except.toOption, Option.filter, quiet]
  | advanced _ _ more =>
      rw [follows.lesson_eq] at more
      obtain ⟨lt, -⟩ := List.getElem?_eq_some_iff.mp more
      dsimp only
      rw [List.take_add_one, Lesson.completions_getElem?_of_next lt]
      rfl
  | ended opened _ last =>
      rw [follows.lesson_eq] at last
      have ge := List.getElem?_eq_none_iff.mp last
      have lt := follows.lt_of_opened opened
      dsimp only
      rw [List.take_add_one,
        Lesson.completions_getElem?_of_last (Nat.le_antisymm lt ge)]
      rfl

/-! Keys one after another. -/

def pressEach (run : LessonRun) : List KeyEvent → List LessonAnswer × LessonRun
  | [] => ([], run)
  | event :: rest =>
      let (answer, _, next) := run.press event
      let (answers, last) := next.pressEach rest
      (answer :: answers, last)

/--
The keys of a script that are pressed: no more of them when the lesson is done.
-/
def untilDone (run : LessonRun) : List KeyEvent → List KeyEvent
  | [] => []
  | event :: rest =>
      match run.press event with
      | (.error _, _, _) => [event]
      | (.ok .lessonComplete, _, _) => [event]
      | (.ok _, _, next) => event :: next.untilDone rest

theorem pressAll_eq (run : LessonRun) (outcome : LessonOutcome)
    (events : List KeyEvent) :
    run.pressAll outcome events =
      ((run.pressEach (run.untilDone events)).1.getLast?.getD (.ok outcome),
        (run.pressEach (run.untilDone events)).2) := by
  induction events generalizing run outcome with
  | nil => rfl
  | cons event rest ih =>
      rcases pressed : run.press event with ⟨answer, after, next⟩
      cases answer with
      | error error => simp [pressAll, untilDone, pressEach, pressed]
      | ok reached =>
          cases reached with
          | lessonComplete => simp [pressAll, untilDone, pressEach, pressed]
          | _ =>
              simp [pressAll, untilDone, pressEach, pressed, ih,
                List.getLast?_cons]

theorem follows_pressEach (follows : run.Follows lesson)
    (events : List KeyEvent) :
    (run.pressEach events).2.Follows lesson ∧
      lesson.completions.take run.step ++ completed (run.pressEach events).1 =
        lesson.completions.take (run.pressEach events).2.step := by
  induction events generalizing run with
  | nil => exact ⟨follows, List.append_nil _⟩
  | cons event rest ih =>
      obtain ⟨later, others⟩ := ih (follows_press follows event)
      refine ⟨later, ?_⟩
      have split : completed (run.pressEach (event :: rest)).1 =
          completed [(run.press event).1] ++
            completed ((run.press event).2.2.pressEach rest).1 :=
        List.filterMap_append (l := [(run.press event).1])
      rw [split, ← List.append_assoc, completed_press follows event]
      exact others

theorem le_step_press (run : LessonRun) (event : KeyEvent) :
    run.step ≤ (run.press event).2.2.step := by
  obtain ⟨done, undone⟩ := run.step_press event
  by_cases completes : run.Completes event
  · rw [done completes]
    exact Nat.le_succ _
  · exact Nat.le_of_eq (undone completes).symm

theorem le_step_pressEach (run : LessonRun) (events : List KeyEvent) :
    run.step ≤ (run.pressEach events).2.step := by
  induction events generalizing run with
  | nil => exact Nat.le_refl _
  | cons event rest ih => exact Nat.le_trans (run.le_step_press event) (ih _)

/-! Operations in any order. -/

def keys (run : LessonRun) : LessonOperation → List KeyEvent
  | .press event => [event]
  | .typeScript script =>
      run.untilDone ((KeyEvent.ofScript script).toOption.getD [])
  | .tick _ | .restartStep => []

def apply (run : LessonRun) : LessonOperation → LessonRun
  | .press event => (run.press event).2.2
  | .typeScript script => (run.typeScript script).2
  | .tick now => (run.tick now).2
  | .restartStep => run.restartStep

def applyAll (run : LessonRun)
    (operations : List LessonOperation) : LessonRun :=
  operations.foldl apply run

def answers (run : LessonRun) : List LessonOperation → List LessonAnswer
  | [] => []
  | operation :: rest =>
      (run.pressEach (run.keys operation)).1 ++
        (run.apply operation).answers rest

theorem apply_typeScript (run : LessonRun) (script : Text) :
    run.apply (.typeScript script) =
      (run.pressEach (run.keys (.typeScript script))).2 := by
  simp only [apply, typeScript, keys]
  cases KeyEvent.ofScript script with
  | error _ => rfl
  | ok events => exact congrArg Prod.snd (run.pressAll_eq .ignored events)

theorem step_restartStep (run : LessonRun) :
    run.restartStep.step = run.step := by
  unfold restartStep
  split <;> rfl

theorem le_step_apply (run : LessonRun) (operation : LessonOperation) :
    run.step ≤ (run.apply operation).step := by
  cases operation with
  | press event => exact run.le_step_press event
  | typeScript script =>
      rw [apply_typeScript]
      exact run.le_step_pressEach _
  | tick now => exact Nat.le_refl _
  | restartStep => exact Nat.le_of_eq run.step_restartStep.symm

theorem follows_apply (follows : run.Follows lesson)
    (operation : LessonOperation) :
    (run.apply operation).Follows lesson ∧
      lesson.completions.take run.step ++
          completed (run.pressEach (run.keys operation)).1 =
        lesson.completions.take (run.apply operation).step := by
  cases operation with
  | press event => exact follows_pressEach follows [event]
  | typeScript script =>
      rw [apply_typeScript]
      exact follows_pressEach follows _
  | tick now =>
      exact ⟨⟨follows.lesson_eq, follows.step_le, follows.finished_iff⟩,
        List.append_nil _⟩
  | restartStep =>
      refine ⟨follows_restartStep follows, ?_⟩
      rw [apply, step_restartStep]
      exact List.append_nil _

theorem follows_applyAll (follows : run.Follows lesson)
    (operations : List LessonOperation) :
    (run.applyAll operations).Follows lesson ∧
      lesson.completions.take run.step ++ completed (run.answers operations) =
        lesson.completions.take (run.applyAll operations).step := by
  induction operations generalizing run with
  | nil => exact ⟨follows, List.append_nil _⟩
  | cons operation rest ih =>
      obtain ⟨next, answered⟩ := follows_apply follows operation
      obtain ⟨last, others⟩ := ih next
      refine ⟨last, ?_⟩
      rw [answers, completed, List.filterMap_append, ← List.append_assoc]
      exact (congrArg (· ++ _) answered).trans others

theorem follows_start {settings : Settings} {first : LessonRun}
    (started : start lesson settings = .ok first) :
    first.Follows lesson ∧ first.step = 0 := by
  unfold start at started
  split at started
  · contradiction
  · rename_i steps
    cases started
    refine ⟨⟨rfl, Nat.zero_le _, ?_⟩, rfl⟩
    simp [steps]

/-! Where the steps end. -/

theorem press_of_finished (finished : run.finished = true) (event : KeyEvent) :
    run.press event = (.error .finished, event, run) :=
  if_pos finished

theorem restartStep_of_finished (finished : run.finished = true) :
    run.restartStep = run := by
  unfold restartStep
  rw [openStep?_of_finished finished]

theorem snapshot_press_of_stepComplete {event : KeyEvent} {step : Nat}
    (done : (run.press event).1 = .ok (.stepComplete step)) :
    step = run.step ∧ ∃ next, run.lesson.steps[step + 1]? = some next ∧
      (run.press event).2.2.engine.snapshot.mode = .normal ∧
      (run.press event).2.2.engine.snapshot.cursor = .origin ∧
      (run.press event).2.2.engine.snapshot.commandArea = [] ∧
      (run.press event).2.2.engine.snapshot.lines =
        (Buffer.ofContent next.content).lines := by
  have pressed := run.pressed_press event
  generalize run.press event = result at pressed done ⊢
  cases pressed with
  | refused _ => contradiction
  | kept _ _ quiet =>
      cases done
      contradiction
  | @advanced next _ _ more =>
      cases done
      exact ⟨rfl, next, more, rfl, rfl, rfl, rfl⟩
  | ended _ _ _ => cases done

/--
Every lesson that has steps can be taken. In whatever order keys, scripts, ticks
and restarts come, the steps are done one by one, each by a key that the editor
consumes and the open step accepts, and each is told once; the next content is
then there to start from, and behind the last step no key and no restart does
anything.
-/
theorem lesson_progress (lesson : Lesson) (settings : Settings)
    (taught : lesson.steps ≠ []) :
    ∃ first, start lesson settings = .ok first ∧ ∀ operations,
      let run := first.applyAll operations
      (run.step ≤ lesson.steps.length ∧
        (run.finished = true ↔ run.step = lesson.steps.length) ∧
        (run.openStep? = none ↔ run.finished = true)) ∧
      ((∀ event,
          (run.Completes event → (run.press event).2.2.step = run.step + 1) ∧
            (¬ run.Completes event → (run.press event).2.2.step = run.step)) ∧
        (∀ script,
          (run.typeScript script).2 =
            (run.pressEach (run.keys (.typeScript script))).2) ∧
        (∀ now, (run.tick now).2.step = run.step) ∧
        run.restartStep.step = run.step ∧
        ∀ operation, run.step ≤ (run.apply operation).step) ∧
      completed (first.answers operations) = lesson.completions.take run.step ∧
      (∀ event step, (run.press event).1 = .ok (.stepComplete step) →
        step = run.step ∧ ∃ next, lesson.steps[step + 1]? = some next ∧
          (run.press event).2.2.engine.snapshot.mode = .normal ∧
          (run.press event).2.2.engine.snapshot.cursor = .origin ∧
          (run.press event).2.2.engine.snapshot.commandArea = [] ∧
          (run.press event).2.2.engine.snapshot.lines =
            (Buffer.ofContent next.content).lines) ∧
      (run.finished = true →
        (∀ event, run.press event = (.error .finished, event, run)) ∧
          run.restartStep = run) := by
  obtain ⟨first, started⟩ : ∃ first, start lesson settings = .ok first := by
    unfold start
    split
    · contradiction
    · exact ⟨_, rfl⟩
  refine ⟨first, started, ?_⟩
  intro operations run
  obtain ⟨beginning, fromZero⟩ := follows_start started
  obtain ⟨follows, told⟩ := follows_applyAll beginning operations
  rw [fromZero] at told
  refine ⟨⟨follows.step_le, follows.finished_iff,
    follows.openStep?_eq_none_iff⟩,
    ⟨run.step_press, run.apply_typeScript, fun _ =>
      rfl, run.step_restartStep, run.le_step_apply⟩, told, ?_, ?_⟩
  · intro event step done
    rw [← follows.lesson_eq]
    exact snapshot_press_of_stepComplete done
  · intro finished
    exact ⟨press_of_finished finished, restartStep_of_finished finished⟩

/-- Two steps, of which a script that goes on too long ends the second one. -/
theorem lesson_progress_through_two_steps :
    let lesson : Lesson := ⟨"first", "Moving and deleting", [
      ⟨"Move to the right", "ab", .cursorAt ⟨0, 1⟩⟩,
      ⟨"Delete a line", "one\ntwo", .linesEqual ["two"]⟩]⟩
    let operations : List LessonOperation :=
      [.press (.char 'x'), .restartStep, .typeScript "hld",
        .tick (.ofMilliseconds 1000), .typeScript "ddxx"]
    lesson.steps ≠ [] ∧
      ∃ first, start lesson .standard = .ok first ∧
        (first.applyAll operations).step = 2 ∧
        (first.applyAll operations).finished = true ∧
        completed (first.answers operations) =
          [.stepComplete 0, .lessonComplete] := by
  intro lesson operations
  have taught : lesson.steps ≠ [] := List.cons_ne_nil _ _
  obtain ⟨first, started, progress⟩ := lesson_progress lesson .standard taught
  obtain ⟨⟨_, finished, _⟩, _, told, _⟩ := progress operations
  have two : (first.applyAll operations).step = 2 := by
    cases started
    decide +kernel
  rw [two] at told
  exact ⟨taught, first, started, two, finished.mpr two, told⟩

end LessonRun

end ModalEditing
