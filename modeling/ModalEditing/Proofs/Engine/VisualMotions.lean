import Mathlib.Data.List.Forall2
import ModalEditing.Proofs.Engine.DroppedPrefix
import ModalEditing.Proofs.Engine.ModePayload

namespace ModalEditing

def motionKeys : List Key :=
  [.char 'h', .char 'j', .char 'k', .char 'l', .char 'w', .char 'b', .char 'e',
    .char '0', .char '^', .char '$', .char 'G', .left, .right, .up, .down,
    .home, .toEnd]

namespace Engine

/-!
Motions in normal and in visual mode. Two editors over one text that differ in
the mode go together as long as motions are typed, and the one with a selection
changes nothing but the selection's head.
-/

def presses (engine : Engine) : List KeyEvent → List Press
  | [] => []
  | event :: rest =>
      engine.press event :: (engine.press event).engine.presses rest

/--
A key is a motion or belongs to one, or else is the character that a motion
looks for.
-/
def TypesMotion (engine : Engine) (event : KeyEvent) : Prop :=
  event.modifiers.hasCommand = false ∧
    ((event.key ∈ motionKeys ∨ ModeKind.visual.TakesIn event.key) ∨
      engine.AwaitsCharacter ∧ ∃ c, event.key = .char c)

def TypesMotions (engine : Engine) : List KeyEvent → Prop
  | [] => True
  | event :: rest =>
      engine.TypesMotion event ∧ (engine.press event).engine.TypesMotions rest

end Engine

theorem ModeKind.TakesIn.normal {key : Key}
    (taken : ModeKind.visual.TakesIn key) : ModeKind.normal.TakesIn key := by
  obtain ⟨c, same, digit | prefixKey⟩ := taken
  · exact ⟨c, same, Or.inl digit⟩
  · refine ⟨c, same, Or.inr ?_⟩
    have table : ModeKind.visual.prefixKeys ⊆ ModeKind.normal.prefixKeys := by
      decide
    exact table prefixKey

theorem Prefix.ofNormalKey?_eq_ofVisualKey? {key : Key}
    (motion : key ∈ motionKeys ∨ ModeKind.visual.TakesIn key) :
    ∀ c, key = .char c → ofNormalKey? c = ofVisualKey? c := by
  let chars :=
    motionKeys.filterMap Key.char? ++
      (countDigits ++ ModeKind.visual.prefixKeys)
  have table : chars.map ofNormalKey? = chars.map ofVisualKey? := rfl
  rintro c rfl
  apply List.map_inj_left.mp table
  rcases motion with member | ⟨_, same, member⟩
  · exact List.mem_append_left _ (List.mem_filterMap.mpr ⟨_, member, rfl⟩)
  · cases same
    exact List.mem_append_right _ (List.mem_append.mpr member)

namespace PendingKeys

theorem read_of_waiting {keys : PendingKeys} {waiting : HeldPrefix}
    (waits : keys.waiting = some waiting) (first second : Char → Option Prefix)
    (key : Key) : keys.read first key = keys.read second key := by
  cases key <;> simp [read, waits]

theorem read_congr {first second : Char → Option Prefix} {key : Key}
    (same : ∀ c, key = .char c → first c = second c) (keys : PendingKeys) :
    keys.read first key = keys.read second key := by
  cases waits : keys.waiting with
  | some waiting => exact read_of_waiting waits first second key
  | none =>
      cases key with
      | char c => simp [read, waits, same c rfl]
      | _ => simp [read, waits]

end PendingKeys

namespace Engine

theorem exists_target? {key : Key} (motion : key ∈ motionKeys) (engine : Engine)
    (count : Nat) : ∃ target, engine.target? key count = some target := by
  simp only [motionKeys, List.mem_cons, List.not_mem_nil, or_false] at motion
  rcases motion with
    rfl | rfl | rfl | rfl | rfl | rfl | rfl | rfl | rfl | rfl | rfl | rfl |
      rfl | rfl | rfl | rfl | rfl
  all_goals exact ⟨_, rfl⟩

/-- Two editors that differ only in what no motion looks at. -/
structure Alike (first second : Engine) : Prop where
  settings : first.settings = second.settings
  buffer : first.buffer = second.buffer
  now : first.now = second.now

def placed (engine : Engine) (p : Position) (mode : Mode) : Engine :=
  { engine with cursor := p, mode := mode }

theorem runKeyCommand_eq_moved {command : KeyCommand}
    (motion : command = .goToFirstLine ∨ (∃ c, command = .findForward c) ∨
      ∃ c, command = .findBackward c)
    (buffer : Buffer) (p : Position) (count : Nat) :
    ∃ target : Option Position, ∀ engine : Engine, engine.buffer = buffer →
      engine.cursor = p →
      engine.runKeyCommand command count =
        (target.map engine.moveTo).getD engine := by
  have column (col : Option Nat) (engine : Engine)
      (cursor : engine.cursor = p) :
      engine.moveToColumn col =
        ((col.map (Position.mk p.line)).map engine.moveTo).getD engine := by
    subst cursor
    cases col with
    | none => rfl
    | some col => rfl
  rcases motion with rfl | ⟨c, rfl⟩ | ⟨c, rfl⟩
  · exact ⟨some .origin, fun _ _ _ => rfl⟩
  · refine ⟨(Line.findForward? (buffer.lineText p.line) p.col c count).map
      (Position.mk p.line), ?_⟩
    rintro engine rfl rfl
    exact column _ engine rfl
  · refine ⟨(Line.findBackward? (buffer.lineText p.line) p.col c count).map
      (Position.mk p.line), ?_⟩
    rintro engine rfl rfl
    exact column _ engine rfl

variable {first second : Engine} {selection : Selection}

theorem target?_placed (alike : first.Alike second) (p : Position)
    (mode other : Mode) (key : Key) (count : Nat) :
    (first.placed p mode).target? key count =
      (second.placed p other).target? key count := by
  unfold target? placed
  rw [alike.buffer]

/-- Two editors stand where `first` and `second` have got to by motions only. -/
def Together (first second : Engine) (selection : Selection)
    (normal visual : Engine) : Prop :=
  ∃ p keys head, keys.OnlyMotions ∧ normal = first.placed p (.normal keys) ∧
    visual = second.placed p (.visual { selection with head := head } keys)

theorem together_moved (alike : first.Alike second) (selection : Selection)
    (p : Position) (target : Option Position) :
    Together first second selection
      ((target.map (first.placed p (.normal .none)).moveTo).getD
        (first.placed p (.normal .none)))
      ((target.map (second.placed p (.visual selection .none)).moveTo).getD
        (second.placed p (.visual selection .none))) := by
  cases target with
  | none =>
      exact ⟨p, .none, selection.head, PendingKeys.onlyMotions_none, rfl, rfl⟩
  | some target =>
      refine ⟨nearest second.buffer .normal target, .none, _,
        PendingKeys.onlyMotions_none, ?_, rfl⟩
      rw [← alike.buffer]
      rfl

theorem readKey_together (alike : first.Alike second) {p : Position}
    {keys : PendingKeys} (motions : keys.OnlyMotions) {key : Key}
    (typed : (key ∈ motionKeys ∨ ModeKind.visual.TakesIn key) ∨
      ∃ waiting c, keys.waiting = some waiting ∧ waiting.held.takesAny = true ∧
        key = .char c)
    {normal visual : Bool × Engine}
    (normalReads : (first.placed p (.normal keys)).readKey keys
      Prefix.ofNormalKey? key (runNormalKey? · key) = normal)
    (visualReads : (second.placed p (.visual selection keys)).readKey keys
      Prefix.ofVisualKey? key (runVisualKey? · selection key) = visual) :
    normal.1 = visual.1 ∧
      Together first second selection normal.2 visual.2 := by
  have sameRead :
      keys.read Prefix.ofNormalKey? key =
        keys.read Prefix.ofVisualKey? key := by
    rcases typed with motion | ⟨waiting, c, waits, -, rfl⟩
    · exact keys.read_congr (Prefix.ofNormalKey?_eq_ofVisualKey? motion)
    · exact PendingKeys.read_of_waiting waits _ _ _
  have bareNormal : (first.placed p (.normal keys)).enter
      ((first.placed p (.normal keys)).mode.withKeys .none) =
        first.placed p (.normal .none) := rfl
  have bareVisual : (second.placed p (.visual selection keys)).enter
      ((second.placed p (.visual selection keys)).mode.withKeys .none) =
        second.placed p (.visual selection .none) := rfl
  subst normalReads visualReads
  simp only [readKey, sameRead, bareNormal, bareVisual]
  cases reading : keys.read Prefix.ofVisualKey? key with
  | takenIn count held =>
      refine ⟨rfl, p,
        ⟨count, held.map (HeldPrefix.start · second.now second.settings.wait)⟩,
        selection.head, motions.takenIn reading _ _, ?_, rfl⟩
      rw [← alike.now, ← alike.settings]
      rfl
  | command command count =>
      obtain ⟨target, moves⟩ :=
        runKeyCommand_eq_moved (motions.command reading) second.buffer p count
      dsimp only
      rw [moves (first.placed p (.normal .none)) alike.buffer rfl,
        moves (second.placed p (.visual selection .none)) rfl rfl]
      exact ⟨rfl, together_moved alike selection p target⟩
  | single count =>
      rcases typed with (motion | taken) | ⟨waiting, c, waits, any, rfl⟩
      · obtain ⟨target, goes⟩ :=
          exists_target? motion (second.placed p (.visual selection .none))
            count
        have alsoGoes :
            (first.placed p (.normal .none)).target? key count =
              some target := by
          rw [← goes]
          exact target?_placed alike p _ _ key count
        simp only [runNormalKey?, runVisualKey?, goes, alsoGoes]
        exact ⟨trivial, together_moved alike selection p (some target)⟩
      · simp only [runNormalKey?_eq_none taken.normal,
          runVisualKey?_eq_none taken]
        exact ⟨trivial, together_moved alike selection p none⟩
      · -- What is looked for makes a command, and is never read alone.
        obtain ⟨command, completed⟩ :=
          PendingKeys.read_takesAny waits any Prefix.ofVisualKey? c
        rw [completed] at reading
        contradiction

theorem Together.press (alike : first.Alike second) {normal visual : Engine}
    (together : Together first second selection normal visual)
    {event : KeyEvent} (typed : visual.TypesMotion event) :
    (normal.press event).consumed = (visual.press event).consumed ∧
      Together first second selection (normal.press event).engine
        (visual.press event).engine := by
  obtain ⟨p, keys, head, motions, rfl, rfl⟩ := together
  obtain ⟨bare, typed⟩ := typed
  have expiredNormal : (first.placed p (.normal keys)).expire =
      first.placed p (.normal (keys.inTime second.now)) := by
    rw [expire_eq_inTime, ← alike.now]
    rfl
  have expiredVisual :
      (second.placed p (.visual { selection with head := head } keys)).expire =
        second.placed p (.visual { selection with head := head }
          (keys.inTime second.now)) :=
    expire_eq_inTime _
  -- A prefix that awaits a character is not overdue: it still waits when the
  -- key is read.
  have typed : (event.key ∈ motionKeys ∨ ModeKind.visual.TakesIn event.key) ∨
      ∃ waiting c, (keys.inTime second.now).waiting = some waiting ∧
        waiting.held.takesAny = true ∧ event.key = .char c := by
    refine typed.imp_right ?_
    rintro ⟨⟨timely, pending, waiting, held, waits, any⟩, c, key⟩
    obtain rfl : keys = pending := Option.some.inj held
    have timely : keys.isOverdue second.now = false := timely
    have inTime : keys.inTime second.now = keys :=
      if_neg (Bool.eq_false_iff.mp timely)
    rw [inTime]
    exact ⟨waiting, c, waits, any, key⟩
  obtain ⟨consumed, p, keys, head, motions, normal, visual⟩ :=
    readKey_together alike (motions.inTime second.now) typed
      (dispatch_normal rfl bare).symm (dispatch_visual rfl bare).symm
  rw [← expiredNormal] at consumed normal
  rw [← expiredVisual] at consumed visual
  exact ⟨consumed, p, keys, head, motions, normal, visual⟩

theorem Together.presses (alike : first.Alike second) {normal visual : Engine}
    (together : Together first second selection normal visual)
    {events : List KeyEvent} (typed : visual.TypesMotions events) :
    List.Forall₂ (fun pressed selecting =>
      pressed.consumed = selecting.consumed ∧
        Together first second selection pressed.engine selecting.engine)
      (normal.presses events) (visual.presses events) := by
  induction events generalizing normal visual with
  | nil => exact .nil
  | cons event rest ih =>
      obtain ⟨typed, others⟩ := typed
      obtain ⟨consumed, next⟩ := together.press alike typed
      exact .cons ⟨consumed, next⟩ (ih next others)

theorem Together.snapshot_eq (visualMode : second.mode.kind = .visual)
    {normal visual : Engine}
    (together : Together first second selection normal visual) :
    ∃ head, visual.snapshot =
      { second.snapshot with
        cursor := normal.snapshot.cursor
        commandArea := normal.snapshot.commandArea
        selection := some { selection with head := head } } := by
  obtain ⟨p, keys, head, -, rfl, rfl⟩ := together
  refine ⟨head, ?_⟩
  simp only [snapshot, placed, visualMode]
  rfl

/--
Motions do in visual mode what they do in normal mode. After each key the cursor
and the command area are the same and so is whether the key was consumed, and
beside them the selection's head is all that has changed in visual mode.
-/
theorem Reachable.motions_agree_across_modes {normal visual : Engine}
    (reachable : Reachable visual) {keys : PendingKeys} {selection : Selection}
    (normalMode : normal.mode = .normal keys)
    (visualMode : visual.mode = .visual selection keys)
    (buffer : normal.buffer = visual.buffer)
    (cursor : normal.cursor = visual.cursor)
    (settings : normal.settings = visual.settings)
    (now : normal.now = visual.now) {events : List KeyEvent}
    (typed : visual.TypesMotions events) :
    List.Forall₂ (fun pressed selecting =>
        selecting.consumed = pressed.consumed ∧
          ∃ head, selecting.engine.snapshot =
            { visual.snapshot with
              cursor := pressed.engine.snapshot.cursor
              commandArea := pressed.engine.snapshot.commandArea
              selection := some { selection with head := head } })
      (normal.presses events) (visual.presses events) := by
  have alike : normal.Alike visual := ⟨settings, buffer, now⟩
  have motions : keys.OnlyMotions :=
    (reachable.coherent.fits_of_visual visualMode).2.2
  have together : Together normal visual selection normal visual := by
    refine ⟨normal.cursor, keys, selection.head, motions, ?_, ?_⟩
    · rw [← normalMode]
      rfl
    · rw [cursor]
      change visual = visual.placed visual.cursor (.visual selection keys)
      rw [← visualMode]
      rfl
  have selecting : visual.mode.kind = .visual := congrArg Mode.kind visualMode
  apply (together.presses alike typed).imp
  rintro pressed selected ⟨consumed, together⟩
  exact ⟨consumed.symm, together.snapshot_eq selecting⟩

/--
Whole lines are selected, `2` goes before `f`, and a digit is looked for and
found.
-/
theorem motions_agree_across_modes_for_digit :
    let normal := (ofContent "a1b1\nc").run [.pressKey (.char '2')]
    let visual :=
      (ofContent "a1b1\nc").run [.pressKey (.char 'V'), .pressKey (.char '2')]
    let selection : Selection := ⟨⟨0, 0⟩, ⟨0, 3⟩, .lines⟩
    let keys : PendingKeys := ⟨some 2, none⟩
    let events : List KeyEvent := [.char 'f', .char '1', .char 'G']
    (Reachable visual ∧ normal.mode = .normal keys ∧
        visual.mode = .visual selection keys ∧
        normal.buffer = visual.buffer ∧ normal.cursor = visual.cursor ∧
        normal.settings = visual.settings ∧ normal.now = visual.now ∧
        visual.TypesMotions events) ∧
      (normal.presses events).map (·.engine.cursor) = [⟨0, 0⟩, ⟨0, 3⟩, ⟨1, 0⟩] ∧
      List.Forall₂ (fun pressed selecting =>
          selecting.consumed = pressed.consumed ∧
            ∃ head, selecting.engine.snapshot =
              { visual.snapshot with
                cursor := pressed.engine.snapshot.cursor
                commandArea := pressed.engine.snapshot.commandArea
                selection := some { selection with head := head } })
        (normal.presses events) (visual.presses events) := by
  intro normal visual selection keys events
  have reachable : Reachable visual := (Reachable.ofContent _).run _
  have normalMode : normal.mode = .normal keys := by decide +kernel
  have visualMode : visual.mode = .visual selection keys := by decide +kernel
  have buffer : normal.buffer = visual.buffer := by decide +kernel
  have cursor : normal.cursor = visual.cursor := by decide +kernel
  have settings : normal.settings = visual.settings := by decide +kernel
  have now : normal.now = visual.now := by decide +kernel
  have awaits : (visual.press (.char 'f')).engine.AwaitsCharacter := by
    refine ⟨by decide +kernel,
      ⟨some 2, some ⟨.findForward, .ofMilliseconds 1000⟩⟩, _, ?_, rfl, rfl⟩
    decide +kernel
  have typed : visual.TypesMotions events := by
    refine ⟨⟨rfl, Or.inl (Or.inr ⟨'f', rfl, ?_⟩)⟩,
      ⟨rfl, Or.inr ⟨awaits, '1', rfl⟩⟩, ⟨rfl, Or.inl (Or.inl ?_)⟩, trivial⟩
    · decide
    · decide
  exact ⟨⟨reachable, normalMode, visualMode, buffer, cursor, settings, now,
    typed⟩, by decide +kernel,
    reachable.motions_agree_across_modes normalMode visualMode buffer cursor
      settings now typed⟩

/--
When the clock has reached its end, `f` is overdue at once, and `x` deletes the
selection.
-/
theorem overdue_find_drops_character :
    let normal := (ofContent "abc").run [.tick .longest]
    let visual := normal.run [.pressKey (.char 'v')]
    let finding := (visual.press (.char 'f')).engine
    (Reachable normal ∧ Reachable visual ∧ normal.mode = .normal .none ∧
        visual.mode = .visual (.charAt .origin) .none ∧
        normal.buffer = visual.buffer ∧
        normal.cursor = visual.cursor ∧ normal.settings = visual.settings ∧
        normal.now = visual.now) ∧
      finding.mode =
        .visual (.charAt .origin) ⟨none, some ⟨.findForward, .longest⟩⟩ ∧
      ¬ ((finding.press (.char 'x')).engine.snapshot.mode = .visual ∧
        (finding.press (.char 'x')).engine.snapshot.lines =
          visual.snapshot.lines) := by
  intro normal visual finding
  have reachable : Reachable normal := (Reachable.ofContent _).run _
  refine ⟨⟨reachable, reachable.run _, ?_⟩, ?_, ?_⟩
  · decide +kernel
  · decide +kernel
  · decide +kernel

end Engine

end ModalEditing
