import ModalEditing.Proofs.Engine.Deadlines
import ModalEditing.Proofs.Engine.ModePayload

namespace ModalEditing

/-- What reaches an editor whose host only types and keeps the time. -/
inductive Input where
  | key (event : KeyEvent)
  | tick (now : Duration)
  | advance (elapsed : Duration)

def Input.isKey : Input → Bool
  | key _ => true
  | tick _ | advance _ => false

namespace Engine

/-! Keys and ticks in any order. -/

/--
Whether a key is consumed or a tick drops a prefix, and the editor after it.
-/
def feed (engine : Engine) : Input → Bool × Engine
  | .key event => ((engine.press event).consumed, (engine.press event).engine)
  | .tick now => ((engine.tick now).answer, (engine.tick now).engine)
  | .advance elapsed =>
      ((engine.advance elapsed).answer, (engine.advance elapsed).engine)

def feedAll (engine : Engine) : List Input → Engine
  | [] => engine
  | input :: rest => (engine.feed input).2.feedAll rest

def answers (engine : Engine) : List Input → List (Input × Bool)
  | [] => []
  | input :: rest =>
      (input, (engine.feed input).1) :: (engine.feed input).2.answers rest

/-- No tick drops a prefix. -/
def Quiet (engine : Engine) (inputs : List Input) : Prop :=
  ∀ answer ∈ engine.answers inputs, answer.1.isKey = false → answer.2 = false

variable {engine : Engine}

theorem Reachable.feed (reachable : Reachable engine) (input : Input) :
    Reachable (engine.feed input).2 := by
  cases input with
  | key event => exact reachable.apply (.press event)
  | tick now => exact reachable.apply (.tick now)
  | advance elapsed => exact reachable.apply (.advance elapsed)

theorem feedAll_append (engine : Engine) (first second : List Input) :
    engine.feedAll (first ++ second) =
      (engine.feedAll first).feedAll second := by
  induction first generalizing engine with
  | nil => rfl
  | cons input rest ih => exact ih (engine.feed input).2

/-! Ticks one after another. -/

theorem tick_tick (engine : Engine) (first second : Duration) :
    ((engine.tick first).engine.tick second).engine =
      (engine.tick (max first second)).engine := by
  have again : max (max engine.now first) (max (max engine.now first) second) =
      max (max engine.now first) second := by
    rw [← Duration.max_assoc, Duration.max_eq_left (Nat.le_refl _)]
  simp only [tick_engine, Mode.inTime_inTime, again]
  rw [Duration.max_assoc]

theorem feedAll_ticks_of_le {latest : Duration} {times : List Duration}
    (le : ∀ time ∈ times, time ≤ latest) :
    (engine.tick latest).engine.feedAll (times.map .tick) =
      (engine.tick latest).engine := by
  induction times with
  | nil => rfl
  | cons time rest ih =>
      rw [List.forall_mem_cons] at le
      change ((engine.tick latest).engine.tick time).engine.feedAll
        (rest.map .tick) = _
      rw [tick_tick, Duration.max_eq_left le.1]
      exact ih le.2

theorem tick_feedAll_of_le {latest : Duration} {times : List Duration}
    (le : ∀ time ∈ times, time ≤ latest) :
    ((engine.feedAll (times.map .tick)).tick latest).engine =
      (engine.tick latest).engine := by
  induction times generalizing engine with
  | nil => rfl
  | cons time rest ih =>
      rw [List.forall_mem_cons] at le
      change (((engine.tick time).engine.feedAll (rest.map .tick)).tick
        latest).engine = _
      rw [ih le.2, tick_tick, Duration.max_eq_right le.1]

theorem feedAll_ticks {latest : Duration} {times : List Duration}
    (mem : latest ∈ times) (le : ∀ time ∈ times, time ≤ latest) :
    engine.feedAll (times.map .tick) = (engine.tick latest).engine := by
  -- The latest tick takes over from those before it, and those behind it come
  -- too late.
  obtain ⟨before, behind, rfl⟩ := List.append_of_mem mem
  rw [List.forall_mem_append, List.forall_mem_cons] at le
  obtain ⟨leBefore, -, leBehind⟩ := le
  rw [List.map_append, feedAll_append]
  change ((engine.feedAll (before.map .tick)).tick latest).engine.feedAll
    (behind.map .tick) = _
  rw [tick_feedAll_of_le leBefore]
  exact feedAll_ticks_of_le leBehind

theorem snapshot_tick_of_answer {now : Duration}
    (dropped : (engine.tick now).answer = true) :
    ∃ keys ∈ engine.mode.keys?, ∃ waiting ∈ keys.waiting,
      engine.snapshot.commandArea =
        (keys.count.map Text.decimal).getD [] ++ waiting.held.keys ∧
      (engine.tick now).engine.snapshot =
        { engine.snapshot with
          commandArea := (keys.count.map Text.decimal).getD [] } := by
  have overdue :
      engine.mode.keys?.any (·.isOverdue (max engine.now now)) = true :=
    dropped
  obtain ⟨keys, pending, overdue⟩ := (Option.any_eq_true _ _).mp overdue
  obtain ⟨waiting, waits, -⟩ := (Option.any_eq_true _ _).mp overdue
  have after :
      (engine.mode.inTime (max engine.now now)).keys? =
        some keys.dropPrefix := by
    rw [Mode.keys?_inTime, pending]
    exact congrArg some (if_pos overdue)
  refine ⟨keys, pending, waiting, waits, ?_, ?_⟩
  · simp [snapshot, Mode.commandArea_of_keys? pending,
      PendingKeys.display, waits]
  · simp [tick_engine, snapshot, Mode.kind_inTime, Mode.selection?_inTime,
      Mode.commandArea_of_keys? after, PendingKeys.display,
      PendingKeys.dropPrefix]

theorem tick_of_not_answer {now : Duration}
    (kept : (engine.tick now).answer = false) :
    (engine.tick now).engine = { engine with now := max engine.now now } :=
  expire_of_timely kept

/-! Runs with ticks and without them. -/

theorem le_now_feed (engine : Engine) (input : Input) :
    engine.now ≤ (engine.feed input).2.now := by
  cases input with
  | key event =>
      exact Nat.le_of_eq (congrArg _ (engine.timing_press event).1.symm)
  | tick now => exact engine.le_now_tick now
  | advance elapsed => exact engine.le_now_tick (engine.now + elapsed)

theorem le_now_feedAll (engine : Engine) (inputs : List Input) :
    engine.now ≤ (engine.feedAll inputs).now := by
  induction inputs generalizing engine with
  | nil => exact Nat.le_refl _
  | cons input rest ih => exact Nat.le_trans (engine.le_now_feed input) (ih _)

theorem settings_feed (engine : Engine) (input : Input) :
    (engine.feed input).2.settings.waitMilliseconds =
      engine.settings.waitMilliseconds := by
  cases input with
  | key event => exact (engine.timing_press event).2
  | tick now =>
      exact congrArg (·.settings.waitMilliseconds) (engine.tick_engine now)
  | advance elapsed =>
      exact congrArg (·.settings.waitMilliseconds) (engine.tick_engine _)

/-- The clock of an editor still runs, and its prefixes wait. -/
structure Running (engine : Engine) : Prop where
  reachable : Reachable engine
  waits : 1 ≤ engine.settings.waitMilliseconds
  early : engine.now < .longest

theorem Running.isOverdue (running : engine.Running) :
    engine.isOverdue = false :=
  (running.reachable.timely running.waits running.early).isOverdue

theorem Running.feed (running : engine.Running) {input : Input}
    (early : (engine.feed input).2.now < .longest) :
    (engine.feed input).2.Running where
  reachable := running.reachable.feed input
  waits := by
    rw [settings_feed]
    exact running.waits
  early := early

theorem Running.press (running : engine.Running) (event : KeyEvent) :
    (engine.press event).engine.Running := by
  refine @Running.feed _ running (.key event) ?_
  exact Nat.lt_of_le_of_lt
    (Nat.le_of_eq (congrArg _ (engine.timing_press event).1)) running.early

/-- Two editors that differ in their timing only do the same on a key. -/
theorem Running.press_retime {timing : Timing} (running : engine.Running)
    (other : (engine.retime timing).Running) (event : KeyEvent) :
    ∃ deadline,
      ((engine.retime timing).press event).consumed =
        (engine.press event).consumed ∧
      ((engine.retime timing).press event).engine =
        (engine.press event).engine.retime
          { timing with deadline := deadline } := by
  obtain ⟨deadline, -, retimed⟩ := engine.dispatch_retime timing event
  refine ⟨deadline, ?_⟩
  simp only [Engine.press, expire_of_timely running.isOverdue,
    expire_of_timely other.isOverdue, retimed, and_self]

theorem retime_feed {input : Input} (tick : input.isKey = false)
    (kept : (engine.feed input).1 = false) (timing : Timing) :
    (engine.feed input).2.retime timing = engine.retime timing := by
  cases input with
  | key event => contradiction
  | tick now => exact congrArg (·.retime timing) (tick_of_not_answer kept)
  | advance elapsed =>
      exact congrArg (·.retime timing) (tick_of_not_answer kept)

/--
A run in which no tick drops a prefix ends, but for its timing, as it does
without the ticks, and the keys are answered alike.
-/
theorem Quiet.feedAll_keys {inputs : List Input} {timing : Timing}
    (running : engine.Running) (other : (engine.retime timing).Running)
    (early : (engine.feedAll inputs).now < .longest)
    (quiet : engine.Quiet inputs) :
    (engine.answers inputs).filter (·.1.isKey) =
        (engine.retime timing).answers (inputs.filter (·.isKey)) ∧
      ∃ after, (engine.retime timing).feedAll (inputs.filter (·.isKey)) =
        (engine.feedAll inputs).retime after := by
  -- The other editor stays this one at another time: a key keeps it so, and a
  -- tick that drops no prefix only sets a clock that `retime` replaces.
  induction inputs generalizing engine timing with
  | nil => exact ⟨rfl, timing, rfl⟩
  | cons input rest ih =>
      obtain ⟨kept, quiet⟩ := List.forall_mem_cons.mp quiet
      have next : (engine.feed input).2.Running :=
        running.feed (Nat.lt_of_le_of_lt (le_now_feedAll _ rest) early)
      cases input with
      | key event =>
          obtain ⟨deadline, consumed, same⟩ := running.press_retime other event
          have otherNext := other.press event
          rw [same] at otherNext
          obtain ⟨answered, ends⟩ := ih next otherNext early quiet
          simp only [answers, feedAll, feed, List.filter_cons, Input.isKey,
            if_true, consumed, same]
          exact ⟨congrArg _ answered, ends⟩
      | tick now =>
          rw [← retime_feed rfl (kept rfl) timing] at other ⊢
          exact ih next other early quiet
      | advance elapsed =>
          rw [← retime_feed rfl (kept rfl) timing] at other ⊢
          exact ih next other early quiet

/--
The clock shows in nothing before a deadline comes. Ticks before it can be left
out of a run, the one that reaches it drops the prefix and nothing else, and of
several ticks only the latest one counts.
-/
theorem Reachable.clock_invisible (reachable : Reachable engine)
    (waits : 1 ≤ engine.settings.waitMilliseconds)
    (early : engine.now < .longest) :
    (∀ keys ∈ engine.mode.keys?, ∀ waiting ∈ keys.waiting,
      engine.now < waiting.deadline ∧
      waiting.deadline ≤ engine.now + engine.settings.wait) ∧
    (∀ inputs, (engine.feedAll inputs).now < .longest → engine.Quiet inputs →
      (engine.feedAll inputs).snapshot =
        (engine.feedAll (inputs.filter (·.isKey))).snapshot ∧
      (engine.answers inputs).filter (·.1.isKey) =
        engine.answers (inputs.filter (·.isKey))) ∧
    (∀ now, (engine.tick now).answer = true →
      ∃ keys ∈ engine.mode.keys?, ∃ waiting ∈ keys.waiting,
        engine.snapshot.commandArea =
          (keys.count.map Text.decimal).getD [] ++ waiting.held.keys ∧
        (engine.tick now).engine.snapshot =
          { engine.snapshot with
            commandArea := (keys.count.map Text.decimal).getD [] }) ∧
    (∀ times : List Duration, ∀ latest ∈ times,
      (∀ time ∈ times, time ≤ latest) →
        engine.feedAll (times.map .tick) = (engine.tick latest).engine) := by
  refine ⟨reachable.timely waits early, ?_, ?_, ?_⟩
  · intro inputs stays quiet
    have running : engine.Running := ⟨reachable, waits, early⟩
    obtain ⟨deadline, same, -⟩ := engine.exists_retime_eq
    have itself := running
    rw [← same] at itself
    obtain ⟨answered, after, ends⟩ := quiet.feedAll_keys running itself stays
    rw [same] at answered ends
    rw [ends, snapshot_retime]
    exact ⟨rfl, answered⟩
  · intro now dropped
    exact snapshot_tick_of_answer dropped
  · intro times latest mem le
    exact feedAll_ticks mem le

/--
Keys up to 999 milliseconds apart after `2d`, and a tick after a whole second.
-/
theorem clock_invisible_after_counted_prefix :
    let engine := (ofContent "one two three\nx").run
      [.pressKey (.char '2'), .pressKey (.char 'd')]
    let inputs :=
      [.tick (.ofMilliseconds 999), .key (.char 'w'), .key (.char 'd'),
        .advance (.ofMilliseconds 999), .tick .zero, .key (.char 'd')]
    let late := Duration.ofMilliseconds 1000
    (Reachable engine ∧ 1 ≤ engine.settings.waitMilliseconds ∧
        engine.now < .longest ∧ (engine.feedAll inputs).now < .longest ∧
        engine.Quiet inputs ∧ (engine.tick late).answer = true) ∧
      (engine.feedAll inputs).snapshot =
        (engine.feedAll (inputs.filter (·.isKey))).snapshot ∧
      engine.snapshot.commandArea = ['2', 'd'] ∧
      (engine.tick late).engine.snapshot =
        { engine.snapshot with commandArea := ['2'] } ∧
      engine.feedAll ([late, .zero, late].map .tick) =
        (engine.tick late).engine := by
  intro engine inputs late
  have reachable : Reachable engine := (Reachable.ofContent _).run _
  have waits : 1 ≤ engine.settings.waitMilliseconds := by decide +kernel
  have early : engine.now < .longest := by decide +kernel
  have stays : (engine.feedAll inputs).now < .longest := by decide +kernel
  have quiet : engine.Quiet inputs := by
    unfold Quiet
    decide +kernel
  have dropped : (engine.tick late).answer = true := by decide +kernel
  have pending : engine.mode.keys? =
      some ⟨some 2, some ⟨.delete, .ofMilliseconds 1000⟩⟩ := by
    decide +kernel
  obtain ⟨-, runs, drops, ticks⟩ := reachable.clock_invisible waits early
  obtain ⟨keys, typed, waiting, held, shown, left⟩ := drops late dropped
  obtain rfl := Option.some.inj (pending.symm.trans typed)
  obtain rfl := Option.some.inj held
  exact ⟨⟨reachable, waits, early, stays, quiet, dropped⟩,
    (runs inputs stays quiet).1, shown, left,
    ticks _ late (by simp) (by decide +kernel)⟩

end Engine

end ModalEditing
