import ModalEditing.Proofs.Engine.Clock
import ModalEditing.Proofs.Key.Spelling
import ModalEditing.Session

namespace ModalEditing

namespace Engine

variable {engine : Engine}

theorem Running.pressAll (running : engine.Running) (events : List KeyEvent) :
    (engine.pressAll events).engine.Running :=
  pressAll_preserves (fun event running => running.press event) running events

theorem Running.tick (running : engine.Running) {now : Duration}
    (early : now < .longest) : (engine.tick now).engine.Running := by
  refine @Running.feed _ running (.tick now) ?_
  change (engine.tick now).engine.now < .longest
  have before := running.early
  rw [tick_engine]
  simp only [Duration.lt_def, Duration.nanoseconds_max] at *
  omega

theorem now_pressAll (engine : Engine) (events : List KeyEvent) :
    (engine.pressAll events).engine.now = engine.now :=
  pressAll_preserves (P := fun next => next.now = engine.now)
    (fun event same => ((timing_press _ event).1).trans same) rfl events

theorem Running.tick_eq_self (running : engine.Running) {now : Duration}
    (come : now ≤ engine.now) : (engine.tick now).engine = engine := by
  have unmoved : engine.mode.inTime engine.now = engine.mode := by
    have kept := expire_of_timely running.isOverdue
    rw [expire_eq_inTime] at kept
    exact congrArg Engine.mode kept
  rw [tick_engine, Duration.max_eq_left come, unmoved]

theorem le_now_tick_self (engine : Engine) (now : Duration) :
    now ≤ (engine.tick now).engine.now := by
  rw [tick_engine, Duration.le_def, Duration.nanoseconds_max]
  exact Nat.le_max_right _ _

end Engine

namespace Session

/-!
What a run of lines makes of the editor of a session. Lines with an error type
nothing at all, and the other scripts together are one script, wherever the
lines end.
-/

def commandName? : Text → Option Text
  | '\\' :: command => some (Text.firstWord (Text.trim command))
  | _ => none

/-- A line puts the editor back to a start. -/
def Restarts (line : Text) : Prop :=
  commandName? line = some ("reset" : Text) ∨
    commandName? line = some ("load" : Text)

instance (line : Text) : Decidable (Restarts line) :=
  inferInstanceAs (Decidable (_ ∨ _))

/-- A line is no command, and is a key script from its start to its end. -/
def isTyped (line : Text) : Bool :=
  line.head? != some '\\' && (KeyEvent.ofScript line).isOk

def afterLines (session : Session) (now : Duration)
    (lines : List Text) : Session :=
  lines.foldl (fun session line => (session.processLine line now).2) session

/--
The sessions that validated settings lead to, in which time has not run out.
-/
inductive Opened : Session → Prop where
  | start {settings : Settings} (valid : settings.fault? = none)
      (content : Text) (view : View) (format : OutputFormat) :
      Opened ⟨.start settings content, view, format⟩
  | processLine {session : Session} (opened : Opened session) (line : Text)
      {now : Duration} (early : now < .longest) :
      Opened (session.processLine line now).2

theorem sandbox_runCommand (session : Session) (command : Text) :
    (session.runCommand command).2.sandbox = session.sandbox ∨
      (Text.firstWord command = ("reset" : Text) ∨
          Text.firstWord command = ("load" : Text)) ∧
        ∃ content, (session.runCommand command).2.sandbox =
          .start session.sandbox.settings content := by
  unfold runCommand
  dsimp only
  split
  · exact Or.inl rfl
  · split
    · exact Or.inl rfl
    · split
      · exact Or.inr ⟨Or.inl ‹_›, _, rfl⟩
      · split
        · exact Or.inr ⟨Or.inr ‹_›, _, rfl⟩
        · split
          · exact Or.inl rfl
          · split
            · exact Or.inl rfl
            · split <;> exact Or.inl rfl

theorem isTyped_command (command : Text) :
    isTyped ('\\' :: command) = false := by
  simp [isTyped]

theorem Restarts.isTyped {line : Text} (restarts : Restarts line) :
    isTyped line = false := by
  unfold Restarts commandName? at restarts
  split at restarts
  · exact isTyped_command _
  · simp at restarts

/-- The ways in which a session reads a line. -/
inductive Processed (session : Session) (now : Duration) (line : Text) :
    Except SessionError Reply × Session → Prop where
  | untyped {answer : Except SessionError Reply} {next : Session}
      (refused : isTyped line = false)
      (sandbox_eq : next.sandbox = session.sandbox.tick now) :
      Processed session now line (answer, next)
  | restarted {answer : Except SessionError Reply} {next : Session}
      {content : Text} (restarts : Restarts line)
      (sandbox_eq : next.sandbox = .start session.sandbox.settings content) :
      Processed session now line (answer, next)
  | typed {reply : Reply} {next : Session} {events : List KeyEvent}
      (accepted : isTyped line = true)
      (read : KeyEvent.ofScript line = .ok events)
      (sandbox_eq : next.sandbox =
        { session.sandbox.tick now with
          engine := ((session.sandbox.engine.tick now).engine.pressAll
            events).engine }) :
      Processed session now line (.ok reply, next)

theorem processed_script (session : Session) {line : Text}
    (script : line.head? ≠ some '\\') (now : Duration) :
    Processed session now line <|
      let session := { session with sandbox := session.sandbox.tick now }
      match session.sandbox.typeScript line with
      | .ok (_, sandbox) => { session with sandbox := sandbox }.reply
      | .error error => (.error (.badScript line error), session) := by
  dsimp only [Sandbox.typeScript, Engine.typeScript]
  cases read : KeyEvent.ofScript line with
  | ok events =>
      exact .typed (by simp [isTyped, script, read, Except.isOk, Except.toBool])
        read rfl
  | error error =>
      exact .untyped (by simp [isTyped, read, Except.isOk, Except.toBool]) rfl

theorem processed_processLine (session : Session) (line : Text)
    (now : Duration) :
    Processed session now line (session.processLine line now) := by
  unfold processLine
  dsimp only
  split
  · rename_i command
    rcases sandbox_runCommand { session with
      sandbox := session.sandbox.tick now }
        (Text.trim command) with same | ⟨restarts, content, fresh⟩
    · exact .untyped (isTyped_command command) same
    · exact .restarted (by simpa [Restarts, commandName?] using restarts) fresh
  · rename_i noCommand
    apply processed_script
    intro backslash
    obtain ⟨command, rfl⟩ := List.head?_eq_some_iff.mp backslash
    exact noCommand command rfl

namespace Opened

variable {session : Session}

theorem running_start {settings : Settings} (valid : settings.fault? = none)
    (content : Text) : (Sandbox.start settings content).engine.Running := by
  refine ⟨(Engine.Reachable.fresh settings).apply (.loadContent content), ?_,
    ?_⟩
  · have fault : settings.waitMilliseconds ≠ 0 := by
      intro zero
      simp [Settings.fault?, zero] at valid
    exact Nat.one_le_iff_ne_zero.mpr fault
  · change Duration.zero < Duration.longest
    decide

theorem invariant (opened : session.Opened) :
    session.sandbox.engine.Running ∧
      session.sandbox.settings.fault? = none := by
  induction opened with
  | start valid content view format =>
      exact ⟨running_start valid content, valid⟩
  | @processLine session _ line now early ih =>
      obtain ⟨running, valid⟩ := ih
      have processed := processed_processLine session line now
      generalize session.processLine line now = result at processed ⊢
      cases processed with
      | untyped _ sandbox_eq =>
          rw [sandbox_eq]
          exact ⟨running.tick early, valid⟩
      | restarted _ sandbox_eq =>
          rw [sandbox_eq]
          exact ⟨running_start valid _, valid⟩
      | typed _ _ sandbox_eq =>
          rw [sandbox_eq]
          exact ⟨(running.tick early).pressAll _, valid⟩

end Opened

/-- The script that lines make which are typed one after another. -/
def typedScript (lines : List Text) : Text :=
  (lines.filter isTyped).flatten

theorem typedScript_cons (line : Text) (rest : List Text) :
    typedScript (line :: rest) = typedScript [line] ++ typedScript rest := by
  cases accepted : isTyped line <;> simp [typedScript, accepted]

theorem ofScript_typedScript_cons {line : Text} {rest : List Text}
    {events others : List KeyEvent}
    (first : KeyEvent.ofScript (typedScript [line]) = .ok events)
    (second : KeyEvent.ofScript (typedScript rest) = .ok others) :
    KeyEvent.ofScript (typedScript (line :: rest)) =
      .ok (events ++ others) := by
  rw [typedScript_cons]
  rw [KeyEvent.ofScript_eq_ok_iff] at first second ⊢
  exact first.append second

/--
A line that does not start the editor over sets its clock, and then types its
keys.
-/
theorem engine_processLine (session : Session) (now : Duration) {line : Text}
    (keeps : ¬ Restarts line) :
    ∃ events, KeyEvent.ofScript (typedScript [line]) = .ok events ∧
      (session.processLine line now).2.sandbox.engine =
        ((session.sandbox.engine.tick now).engine.pressAll events).engine := by
  have processed := processed_processLine session line now
  generalize session.processLine line now = result at processed ⊢
  cases processed with
  | untyped refused sandbox_eq =>
      refine ⟨[], by simp [typedScript, refused], ?_⟩
      rw [sandbox_eq]
      rfl
  | restarted restarts _ => exact absurd restarts keeps
  | @typed reply next events accepted read sandbox_eq =>
      refine ⟨events, by simpa [typedScript, accepted] using read, ?_⟩
      rw [sandbox_eq]

theorem engine_afterLines {session : Session} {now : Duration}
    {lines : List Text} (running : session.sandbox.engine.Running)
    (come : now ≤ session.sandbox.engine.now)
    (keeps : ∀ line ∈ lines, ¬ Restarts line) :
    ∃ events, KeyEvent.ofScript (typedScript lines) = .ok events ∧
      (session.afterLines now lines).sandbox.engine =
        (session.sandbox.engine.pressAll events).engine := by
  induction lines generalizing session with
  | nil => exact ⟨[], rfl, rfl⟩
  | cons line rest ih =>
      obtain ⟨keepsLine, keepsRest⟩ := List.forall_mem_cons.mp keeps
      obtain ⟨events, read, typed⟩ := session.engine_processLine now keepsLine
      rw [running.tick_eq_self come] at typed
      have runningNext := running.pressAll events
      have comeNext := come
      rw [← session.sandbox.engine.now_pressAll events] at comeNext
      rw [← typed] at runningNext comeNext
      obtain ⟨others, readRest, typedRest⟩ := ih runningNext comeNext keepsRest
      refine ⟨events ++ others, ofScript_typedScript_cons read readRest, ?_⟩
      rw [Engine.engine_pressAll_append, ← typed]
      exact typedRest

/--
What a session edits depends on the keys that its lines type and on nothing else
about the lines: it is the work of one script, which leaves out the commands and
every line that has an error.
-/
theorem Opened.typed_as_one_script {session : Session} (opened : session.Opened)
    {now : Duration} (early : now < .longest) {lines : List Text}
    (nonempty : lines ≠ []) (keeps : ∀ line ∈ lines, ¬ Restarts line) :
    (∃ typed,
      (session.sandbox.engine.tick now).engine.typeScript
            (lines.filter isTyped).flatten =
          .ok typed ∧
        (session.afterLines now lines).sandbox.engine = typed.engine) ∧
    ∀ line ∈ lines, ∀ other : Session, ∀ error,
      (other.processLine line now).1 = .error error → isTyped line = false := by
  constructor
  · obtain ⟨line, rest, rfl⟩ := List.exists_cons_of_ne_nil nonempty
    obtain ⟨keepsLine, keepsRest⟩ := List.forall_mem_cons.mp keeps
    obtain ⟨events, read, typed⟩ := session.engine_processLine now keepsLine
    have running := (opened.invariant.1.tick early).pressAll events
    have come := session.sandbox.engine.le_now_tick_self now
    rw [← (session.sandbox.engine.tick now).engine.now_pressAll events] at come
    rw [← typed] at running come
    obtain ⟨others, readRest, typedRest⟩ :=
      engine_afterLines running come keepsRest
    have whole : KeyEvent.ofScript ((line :: rest).filter isTyped).flatten =
        .ok (events ++ others) :=
      ofScript_typedScript_cons read readRest
    refine ⟨(session.sandbox.engine.tick now).engine.pressAll
      (events ++ others), ?_, ?_⟩
    · rw [Engine.typeScript, whole]
      rfl
    · rw [Engine.engine_pressAll_append, ← typed]
      exact typedRest
  · intro line _ other error failed
    have processed := processed_processLine other line now
    generalize other.processLine line now = result at processed failed
    cases processed with
    | untyped refused _ => exact refused
    | restarted restarts _ => exact restarts.isTyped
    | typed _ _ _ => contradiction

/--
A command of several keys over four lines, with a command, a bad name and a bad
command between.
-/
theorem typed_as_one_script_across_lines :
    let session : Session := ⟨.start .standard "one two\nthree", ⟨2⟩, .text⟩
    let now := Duration.ofMilliseconds 5
    let lines : List Text := ["2d", "\\json", "x<Bad>", "\\bogus", "w<Esc>"]
    (session.Opened ∧ now < .longest ∧ lines ≠ [] ∧
        ∀ line ∈ lines, ¬ Restarts line) ∧
      (lines.filter isTyped).flatten = "2dw<Esc>" ∧
      (session.afterLines now lines).sandbox.engine.buffer.lines =
        [[], "three"] ∧
      (∃ typed,
        (session.sandbox.engine.tick now).engine.typeScript
              (lines.filter isTyped).flatten =
            .ok typed ∧
          (session.afterLines now lines).sandbox.engine = typed.engine) ∧
      ∀ line ∈ lines, ∀ other : Session, ∀ error,
        (other.processLine line now).1 = .error error →
          isTyped line = false := by
  intro session now lines
  have opened : session.Opened := .start rfl _ _ _
  have early : now < .longest := by decide +kernel
  have keeps : ∀ line ∈ lines, ¬ Restarts line := by decide +kernel
  have nonempty : lines ≠ [] := List.cons_ne_nil _ _
  exact ⟨⟨opened, early, nonempty, keeps⟩, by decide +kernel, by decide +kernel,
    opened.typed_as_one_script early nonempty keeps⟩

end Session

end ModalEditing
