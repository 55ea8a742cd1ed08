import ModalEditing.Proofs.Engine.Press
import ModalEditing.Proofs.Engine.Reachable
import ModalEditing.Proofs.Engine.Retime

namespace ModalEditing

namespace Duration

@[simp] theorem nanoseconds_max (first second : Duration) :
    (max first second).nanoseconds =
      max first.nanoseconds second.nanoseconds := by
  change (if first ≤ second then second else first).nanoseconds = _
  simp only [le_def]
  split <;> omega

theorem max_assoc (first second third : Duration) :
    max (max first second) third = max first (max second third) := by
  ext
  simp only [nanoseconds_max]
  omega

theorem max_eq_right {first second : Duration} (le : first ≤ second) :
    max first second = second := by
  ext
  rw [le_def] at le
  simp only [nanoseconds_max]
  omega

theorem max_eq_left {first second : Duration} (le : second ≤ first) :
    max first second = first := by
  ext
  rw [le_def] at le
  simp only [nanoseconds_max]
  omega

theorem lt_add_ofMilliseconds {now : Duration} (early : now < longest) {n : Nat}
    (positive : 1 ≤ n) : now < now + ofMilliseconds n := by
  have limit : now.nanoseconds < limit := by simpa [lt_def, longest] using early
  simp only [lt_def, nanoseconds_add, ofMilliseconds, nanoseconds_ofNanoseconds]
  omega

end Duration

namespace PendingKeys

theorem inTime_inTime (keys : PendingKeys) (first second : Duration) :
    (keys.inTime first).inTime second = keys.inTime (max first second) := by
  obtain ⟨count, waiting⟩ := keys
  cases waiting with
  | none => rfl
  | some waiting =>
      simp only [inTime, isOverdue, dropPrefix, HeldPrefix.isExpired,
        Duration.le_def, Option.any_some, decide_eq_true_eq,
        Duration.nanoseconds_max]
      split
      · rw [if_pos (Nat.le_trans ‹_› (Nat.le_max_left _ _))]
        exact ite_self _
      · simp only [Option.any_some, decide_eq_true_eq]
        congr 1
        apply propext
        omega

theorem waiting_inTime {keys : PendingKeys} {now : Duration}
    {waiting : HeldPrefix} (waits : waiting ∈ (keys.inTime now).waiting) :
    waiting ∈ keys.waiting ∧ now < waiting.deadline := by
  unfold inTime at waits
  split at waits
  · contradiction
  · rename_i timely
    refine ⟨waits, ?_⟩
    rw [Option.mem_def] at waits
    simpa [isOverdue, waits, HeldPrefix.isExpired, Duration.le_def,
      Duration.lt_def] using timely

theorem exists_due_eq (keys : PendingKeys) (free : Duration) :
    ∃ deadline, keys.due deadline = keys ∧
      (deadline = free ∨
        ∃ waiting ∈ keys.waiting, waiting.deadline = deadline) := by
  obtain ⟨count, waiting⟩ := keys
  cases waiting with
  | none => exact ⟨free, rfl, Or.inl rfl⟩
  | some waiting => exact ⟨waiting.deadline, rfl, Or.inr ⟨waiting, rfl, rfl⟩⟩

theorem deadline_of_due {keys : PendingKeys} {deadline : Duration}
    {waiting : HeldPrefix} (waits : waiting ∈ (keys.due deadline).waiting) :
    waiting.deadline = deadline := by
  obtain ⟨count, held⟩ := keys
  cases held with
  | none => contradiction
  | some held =>
      cases waits
      rfl

end PendingKeys

namespace Mode

def inTime (now : Duration) : Mode → Mode
  | normal keys => normal (keys.inTime now)
  | insert => insert
  | visual selection keys => visual selection (keys.inTime now)
  | command line => command line

variable (mode : Mode)

theorem keys?_inTime (now : Duration) :
    (mode.inTime now).keys? = mode.keys?.map (·.inTime now) := by
  cases mode <;> rfl

theorem kind_inTime (now : Duration) : (mode.inTime now).kind = mode.kind := by
  cases mode <;> rfl

theorem selection?_inTime (now : Duration) :
    (mode.inTime now).selection? = mode.selection? := by
  cases mode <;> rfl

theorem inTime_inTime (first second : Duration) :
    (mode.inTime first).inTime second = mode.inTime (max first second) := by
  cases mode with
  | normal keys => exact congrArg normal (keys.inTime_inTime first second)
  | insert => rfl
  | visual selection keys =>
      exact congrArg (visual selection) (keys.inTime_inTime first second)
  | command _ => rfl

end Mode

namespace Engine

/-!
A prefix that waits has its deadline still to come, as long as the clock runs:
keys let no time pass, and a tick drops every prefix whose deadline it reaches.
-/

/--
A waiting prefix has its deadline still to come, and within the time for which
it waits.
-/
def Timely (engine : Engine) : Prop :=
  ∀ keys ∈ engine.mode.keys?, ∀ waiting ∈ keys.waiting,
    engine.now < waiting.deadline ∧
      waiting.deadline ≤ engine.now + engine.settings.wait

variable {engine : Engine}

/-- The timing of an editor, with a deadline for the prefix that waits. -/
def timing (engine : Engine) (deadline : Duration) : Timing :=
  ⟨engine.now, engine.settings.waitMilliseconds, deadline⟩

theorem retime_timing {deadline : Duration}
    (same : engine.mode.due deadline = engine.mode) :
    engine.retime (engine.timing deadline) = engine := by
  simp only [retime, timing, same]

theorem exists_retime_eq (engine : Engine) :
    ∃ deadline, engine.retime (engine.timing deadline) = engine ∧
      (deadline = engine.now + engine.settings.wait ∨
        ∃ keys ∈ engine.mode.keys?, ∃ waiting ∈ keys.waiting,
          waiting.deadline = deadline) := by
  cases pending : engine.mode.keys? with
  | none =>
      refine ⟨_, retime_timing (Mode.due_eq_self ?_), Or.inl rfl⟩
      simp [pending]
  | some keys =>
      obtain ⟨deadline, same, own⟩ :=
        keys.exists_due_eq (engine.now + engine.settings.wait)
      refine ⟨deadline, retime_timing (Mode.due_eq_self ?_),
        own.imp_right fun own => ?_⟩
      · simpa [pending] using same
      · exact ⟨keys, rfl, own⟩

theorem timely_retime {timing : Timing} (early : timing.now < timing.deadline)
    (soon : timing.deadline ≤
      timing.now + .ofMilliseconds timing.waitMilliseconds) :
    (engine.retime timing).Timely := by
  intro keys pending waiting waits
  have mode : (engine.retime timing).mode = engine.mode.due timing.deadline :=
    rfl
  rw [mode, Mode.keys?_due] at pending
  obtain ⟨keys, -, rfl⟩ := Option.map_eq_some_iff.mp pending
  rw [PendingKeys.deadline_of_due waits]
  exact ⟨early, soon⟩

theorem isOverdue_eq_false_iff (engine : Engine) :
    engine.isOverdue = false ↔
      ∀ keys ∈ engine.mode.keys?, ∀ waiting ∈ keys.waiting,
        engine.now < waiting.deadline := by
  simp [isOverdue, PendingKeys.isOverdue, HeldPrefix.isExpired,
    Option.any_eq_false, Duration.lt_def, Duration.le_def]

theorem Timely.isOverdue (timely : engine.Timely) : engine.isOverdue = false :=
  engine.isOverdue_eq_false_iff.mpr fun keys pending waiting waits =>
    (timely keys pending waiting waits).1

theorem expire_eq_inTime (engine : Engine) :
    engine.expire = engine.enter (engine.mode.inTime engine.now) := by
  cases mode : engine.mode with
  | normal keys =>
      have held : engine.mode.keys? = some keys := congrArg Mode.keys? mode
      rw [expire_eq_withKeys held, mode]
      rfl
  | insert =>
      have unchanged : engine.expire = engine := by
        simp [expire, mode, Mode.keys?]
      rw [unchanged, Mode.inTime, ← mode, enter_mode]
  | visual selection keys =>
      have held : engine.mode.keys? = some keys := congrArg Mode.keys? mode
      rw [expire_eq_withKeys held, mode]
      rfl
  | command line =>
      have unchanged : engine.expire = engine := by
        simp [expire, mode, Mode.keys?]
      rw [unchanged, Mode.inTime, ← mode, enter_mode]

theorem timing_dispatch (engine : Engine) (event : KeyEvent) :
    (engine.dispatch event).2.now = engine.now ∧
      (engine.dispatch event).2.settings.waitMilliseconds =
        engine.settings.waitMilliseconds := by
  obtain ⟨deadline, same, -⟩ := engine.exists_retime_eq
  obtain ⟨after, -, retimed⟩ :=
    engine.dispatch_retime (engine.timing deadline) event
  rw [same] at retimed
  have next := congrArg Prod.snd retimed
  dsimp only at next
  rw [next]
  exact ⟨rfl, rfl⟩

theorem timing_press (engine : Engine) (event : KeyEvent) :
    (engine.press event).engine.now = engine.now ∧
      (engine.press event).engine.settings.waitMilliseconds =
        engine.settings.waitMilliseconds := by
  have dispatched := engine.expire.timing_dispatch event
  rw [expire_eq_inTime] at dispatched
  rw [Engine.press, expire_eq_inTime]
  exact dispatched

theorem timely_of_normal (normal : engine.mode = .normal .none) :
    engine.Timely := by
  intro keys pending waiting waits
  rw [normal] at pending
  cases pending
  contradiction

theorem Timely.press (timely : engine.Timely)
    (waits : 1 ≤ engine.settings.waitMilliseconds)
    (early : engine.now < .longest) (event : KeyEvent) :
    (engine.press event).engine.Timely := by
  have later := Duration.lt_add_ofMilliseconds early waits
  -- With its own deadline, or with a new one if no prefix waits, the editor is
  -- its own retiming.
  have own : ∃ deadline, engine.retime (engine.timing deadline) = engine ∧
      engine.now < deadline ∧ deadline ≤ engine.now + engine.settings.wait := by
    obtain ⟨deadline, same, rfl | ⟨keys, pending, waiting, waits, rfl⟩⟩ :=
      engine.exists_retime_eq
    · exact ⟨_, same, later, Nat.le_refl _⟩
    · exact ⟨_, same, timely keys pending waiting waits⟩
  obtain ⟨deadline, same, early, soon⟩ := own
  obtain ⟨after, due, retimed⟩ :=
    engine.dispatch_retime (engine.timing deadline) event
  have next : (engine.press event).engine =
      (engine.dispatch event).2.retime
        { engine.timing deadline with deadline := after } := by
    rw [same] at retimed
    simp only [Engine.press, expire_of_timely timely.isOverdue]
    exact congrArg Prod.snd retimed
  rw [next]
  rcases due with rfl | rfl
  · exact timely_retime early soon
  · exact timely_retime later (Nat.le_refl _)

theorem tick_engine (engine : Engine) (now : Duration) :
    (engine.tick now).engine =
      { engine with
        now := max engine.now now
        mode := engine.mode.inTime (max engine.now now) } :=
  expire_eq_inTime { engine with now := max engine.now now }

theorem le_now_tick (engine : Engine) (now : Duration) :
    engine.now ≤ (engine.tick now).engine.now := by
  rw [tick_engine, Duration.le_def, Duration.nanoseconds_max]
  exact Nat.le_max_left _ _

theorem Timely.tick (timely : engine.Timely) (now : Duration) :
    (engine.tick now).engine.Timely := by
  rw [tick_engine]
  intro keys pending waiting waits
  dsimp only at pending ⊢
  rw [Mode.keys?_inTime] at pending
  obtain ⟨keys, held, rfl⟩ := Option.map_eq_some_iff.mp pending
  obtain ⟨waits, early⟩ := PendingKeys.waiting_inTime waits
  have soon := (timely keys held waiting waits).2
  refine ⟨early, ?_⟩
  simp only [Duration.le_def, Duration.nanoseconds_add,
    Duration.nanoseconds_max] at soon ⊢
  omega

theorem keys?_follow (mode : Mode) (p : Position) :
    (follow mode p).keys? = mode.keys? := by
  cases mode <;> rfl

/-- No deadline is missed unless the clock stops or a prefix waits no time. -/
theorem Reachable.timely (reachable : Reachable engine)
    (waits : 1 ≤ engine.settings.waitMilliseconds)
    (early : engine.now < .longest) : engine.Timely := by
  have invariant :
      1 ≤ engine.settings.waitMilliseconds → engine.now < .longest →
        engine.Timely := by
    refine reachable.invariant
      (P := fun engine =>
        1 ≤ engine.settings.waitMilliseconds → engine.now < .longest →
          engine.Timely)
      ?fresh ?ofContent ?press ?tick ?loadLines ?setCursor
    case fresh =>
      intro settings _ _
      exact timely_of_normal rfl
    case ofContent =>
      intro content _ _
      exact timely_of_normal rfl
    case press =>
      intro engine event ih waits early
      rw [(engine.timing_press event).1] at early
      rw [(engine.timing_press event).2] at waits
      exact (ih waits early).press waits early event
    case tick =>
      intro engine now ih waits early
      rw [tick_engine] at waits
      exact (ih waits (Nat.lt_of_le_of_lt (engine.le_now_tick now) early)).tick
        now
    case loadLines =>
      intro engine lines _ _ _
      exact timely_of_normal rfl
    case setCursor =>
      intro engine p ih waits early keys pending
      rw [setCursor, moveTo, keys?_follow] at pending
      exact ih waits early keys pending
  exact invariant waits early

end Engine

end ModalEditing
