import ModalEditing.Proofs.Engine.RepeatedMotion
import ModalEditing.Search

namespace ModalEditing

def Direction.verticalKeys : Direction → List Key
  | forward => [.char 'j', .down]
  | backward => [.char 'k', .up]

theorem Direction.standsAlone_of_verticalKeys (direction : Direction) :
    ∀ key ∈ direction.verticalKeys, key.StandsAlone := by
  cases direction <;> decide

namespace Buffer

variable {buffer : Buffer} {direction : Direction} {p : Position}

/-!
Going over lines one by one. Each line that the cursor comes to may cut its
column off, and what is left of the column is what all of them leave.
-/

/--
The line some lines below or above another one, or else the last or the first
line.
-/
def lineBeyond (buffer : Buffer) (direction : Direction)
    (line count : Nat) : Nat :=
  match direction with
  | .forward => min (line + count) buffer.lastLine
  | .backward => line - count

theorem lineBeyond_zero (within : p.line < buffer.lineCount)
    (direction : Direction) :
    buffer.lineBeyond direction p.line 0 = p.line := by
  cases direction with
  | forward => exact Nat.min_eq_left (Nat.le_sub_one_of_lt within)
  | backward => rfl

theorem lineBeyond_succ (buffer : Buffer) (direction : Direction)
    (line count : Nat) :
    buffer.lineBeyond direction (buffer.lineBeyond direction line count) 1 =
      buffer.lineBeyond direction line (count + 1) := by
  cases direction with
  | forward =>
      simp only [lineBeyond]
      omega
  | backward => rfl

theorem lineBeyond_lt (within : p.line < buffer.lineCount)
    (direction : Direction) (count : Nat) :
    buffer.lineBeyond direction p.line count < buffer.lineCount := by
  cases direction with
  | forward =>
      simp only [lineBeyond, lastLine]
      omega
  | backward => exact Nat.lt_of_le_of_lt (Nat.sub_le p.line count) within

def verticalStep (buffer : Buffer) (direction : Direction)
    (p : Position) : Position :=
  ⟨buffer.lineBeyond direction p.line 1, p.col⟩

/--
Some lines further, on each of which the cursor is put to the nearest place.
-/
def verticalWay (buffer : Buffer) (direction : Direction) (count : Nat)
    (p : Position) : Position :=
  (fun p =>
    Engine.nearest buffer .normal (buffer.verticalStep direction p))^[count] p

theorem line_verticalWay (within : p.line < buffer.lineCount) (count : Nat) :
    (buffer.verticalWay direction count p).line =
      buffer.lineBeyond direction p.line count := by
  induction count with
  | zero => exact (lineBeyond_zero within direction).symm
  | succ count ih =>
      have inside := lineBeyond_lt within direction (count + 1)
      rw [verticalWay, Function.iterate_succ_apply', ← verticalWay]
      simp only [Engine.nearest, verticalStep, ih, lineBeyond_succ]
      exact Nat.min_eq_left (Nat.le_sub_one_of_lt inside)

theorem col_verticalWay_succ (within : p.line < buffer.lineCount)
    (count : Nat) :
    (buffer.verticalWay direction (count + 1) p).col =
      min (buffer.verticalWay direction count p).col
        (buffer.maxCol (buffer.lineBeyond direction p.line (count + 1))
          false) := by
  have inside := lineBeyond_lt within direction (count + 1)
  rw [verticalWay, Function.iterate_succ_apply', ← verticalWay]
  simp only [Engine.nearest, verticalStep, line_verticalWay within,
    lineBeyond_succ]
  rw [Nat.min_eq_left
    (show _ ≤ buffer.lastLine from Nat.le_sub_one_of_lt inside)]
  rfl

/--
A column is kept if it is one of the first line's and no line on the way cuts it
off.
-/
theorem le_col_verticalWay_iff (within : p.line < buffer.lineCount)
    (direction : Direction) (col count : Nat) :
    col ≤ (buffer.verticalWay direction count p).col ↔
      col ≤ p.col ∧ ∀ i, 1 ≤ i → i ≤ count →
        col ≤ buffer.maxCol (buffer.lineBeyond direction p.line i) false := by
  induction count with
  | zero =>
      refine (and_iff_left fun i positive none => ?_).symm
      omega
  | succ count ih =>
      rw [col_verticalWay_succ within, Nat.le_min, ih, and_assoc]
      refine and_congr_right fun _ =>
        ⟨fun ⟨before, last⟩ i positive upper => ?_, fun every => ?_⟩
      · rcases Nat.le_or_eq_of_le_succ upper with lower | rfl
        · exact before i positive lower
        · exact last
      · exact ⟨fun i positive upper =>
          every i positive (Nat.le_succ_of_le upper),
            every (count + 1) (Nat.le_add_left 1 count) (Nat.le_refl _)⟩

end Buffer

def Between (first last line : Nat) : Prop :=
  first < line ∧ line < last ∨ last < line ∧ line < first

namespace Buffer

variable {buffer : Buffer} {direction : Direction} {p : Position}

theorem forall_lineBeyond_iff (within : p.line < buffer.lineCount) {count : Nat}
    (positive : 1 ≤ count) {P : Nat → Prop}
    (last : P (buffer.lineBeyond direction p.line count)) :
    (∀ i, 1 ≤ i → i ≤ count → P (buffer.lineBeyond direction p.line i)) ↔
      ∀ line, Between p.line (buffer.lineBeyond direction p.line count) line →
        P line := by
  have below : p.line ≤ buffer.lastLine := Nat.le_sub_one_of_lt within
  constructor
  · intro every line between
    cases direction with
    | forward =>
        simp only [Between, lineBeyond] at between every
        have reached := every (line - p.line) (by omega) (by omega)
        rwa [show min (p.line + (line - p.line)) buffer.lastLine = line
          by omega] at reached
    | backward =>
        simp only [Between, lineBeyond] at between every
        have reached := every (p.line - line) (by omega) (by omega)
        rwa [show p.line - (p.line - line) = line by omega] at reached
  · intro every i first upper
    by_cases reached :
        buffer.lineBeyond direction p.line i =
          buffer.lineBeyond direction p.line count
    · rwa [reached]
    · refine every _ ?_
      cases direction with
      | forward =>
          simp only [Between, lineBeyond] at reached ⊢
          omega
      | backward =>
          simp only [Between, lineBeyond] at reached ⊢
          omega

theorem col_verticalWay_eq_iff (within : p.line < buffer.lineCount)
    (direction : Direction) {count : Nat} (positive : 1 ≤ count) :
    let target := buffer.lineBeyond direction p.line count
    min p.col (buffer.maxCol target false) =
        (buffer.verticalWay direction count p).col ↔
      ∀ line, Between p.line target line →
        min p.col (buffer.maxCol target false) ≤ buffer.maxCol line false := by
  intro target
  have reaches :=
    le_col_verticalWay_iff within direction
      (min p.col (buffer.maxCol target false)) count
  have most :=
    (le_col_verticalWay_iff within direction _ count).mp (Nat.le_refl _)
  have least :
      (buffer.verticalWay direction count p).col ≤
        min p.col (buffer.maxCol target false) :=
    Nat.le_min.mpr ⟨most.1, most.2 count positive (Nat.le_refl count)⟩
  rw [forall_lineBeyond_iff (P := fun line =>
    _ ≤ buffer.maxCol line false) within positive (Nat.min_le_right _ _),
      and_iff_right (Nat.min_le_left _ _)] at reaches
  rw [← reaches]
  exact ⟨Nat.le_of_eq, fun kept => Nat.le_antisymm kept least⟩

end Buffer

namespace Engine

variable {engine : Engine} {event : KeyEvent} {direction : Direction}

theorem target?_of_verticalKeys {key : Key}
    (member : key ∈ direction.verticalKeys) (engine : Engine) (count : Nat) :
    engine.target? key count =
      some ⟨engine.buffer.lineBeyond direction engine.cursor.line count,
        engine.cursor.col⟩ := by
  cases direction with
  | forward =>
      simp only [Direction.verticalKeys, List.mem_cons, List.not_mem_nil,
        or_false] at member
      rcases member with rfl | rfl <;> rfl
  | backward =>
      simp only [Direction.verticalKeys, List.mem_cons, List.not_mem_nil,
        or_false] at member
      rcases member with rfl | rfl <;> rfl

theorem moveTo_of_normal (normal : engine.mode = .normal .none) (p : Position) :
    engine.moveTo p =
      { engine with cursor := nearest engine.buffer .normal p } := by
  simp only [moveTo, normal, Mode.kind, follow]

section Pressed

variable {n : Nat} (normal : engine.mode = .normal .none) (positive : 1 ≤ n)
  (unmodified : event.modifiers.hasCommand = false)
  (vertical : event.key ∈ direction.verticalKeys)

include normal positive unmodified vertical

theorem press_counted_of_verticalKeys (limited : n ≤ maxCount)
    (within : engine.cursor.line < engine.buffer.lineCount) :
    let target := engine.buffer.lineBeyond direction engine.cursor.line n
    ((engine.typed (Text.decimal n)).press event).engine = { engine with
      cursor :=
        ⟨target, min engine.cursor.col
          (engine.buffer.maxCol target false)⟩ } := by
  intro target
  have line : min target engine.buffer.lastLine = target :=
    Nat.min_eq_left (Nat.le_sub_one_of_lt
      (Buffer.lineBeyond_lt within direction n))
  have counted :=
    press_of_counted_target (congrArg Mode.keys? normal) positive limited
      unmodified (direction.standsAlone_of_verticalKeys _ vertical)
      (target?_of_verticalKeys vertical engine n)
  rw [counted, moveTo_of_normal normal, nearest, line]
  rfl

theorem engine_pressAll_of_verticalKeys
    (allowed : engine.buffer.Allows engine.mode.kind engine.cursor) :
    (engine.pressAll (List.replicate n event)).engine =
      { engine with
        cursor := engine.buffer.verticalWay direction n engine.cursor } := by
  have steps (other : Engine) (same : other.buffer = engine.buffer) :
      other.target? event.key 1 =
        some (engine.buffer.verticalStep direction other.cursor) :=
    same ▸ target?_of_verticalKeys vertical other 1
  have pressed :=
    engine_pressAll_of_target allowed (congrArg Mode.keys? normal) unmodified
      (direction.standsAlone_of_verticalKeys _ vertical) steps positive
  have placed :=
    allows_iterate_nearest allowed (engine.buffer.verticalStep direction) n
  rw [normal, Mode.kind] at pressed placed
  rw [pressed, moveTo_of_normal normal, placed.nearest_eq]
  rfl

end Pressed

/--
A count before a motion over lines goes at once to the line that as many presses
of its key go to, and leaves all but the column as they do. The column is the
same exactly if no line between cuts off more of it than the last one does.
-/
theorem Reachable.counted_vertical_motion_iff (reachable : Reachable engine)
    (normal : engine.mode = .normal .none) {n : Nat} (positive : 1 ≤ n)
    (limited : n ≤ maxCount) (unmodified : event.modifiers.hasCommand = false)
    (vertical : event.key ∈ direction.verticalKeys) :
    let counted := ((engine.typed (Text.decimal n)).press event).engine
    let repeated := (engine.pressAll (List.replicate n event)).engine
    let target := engine.buffer.lineBeyond direction engine.cursor.line n
    counted = repeated.atColumn counted.cursor.col ∧
      (counted.cursor = repeated.cursor ↔
        ∀ line, Between engine.cursor.line target line →
          min engine.cursor.col (engine.buffer.maxCol target false) ≤
            engine.buffer.maxCol line false) := by
  intro counted repeated target
  have allowed := reachable.coherent.cursor
  let way := engine.buffer.verticalWay direction n engine.cursor
  have counted_eq : counted = { engine with
      cursor :=
        ⟨target, min engine.cursor.col (engine.buffer.maxCol target false)⟩ } :=
    press_counted_of_verticalKeys normal positive unmodified vertical
      limited allowed.1
  have repeated_eq : repeated = { engine with cursor := way } :=
    engine_pressAll_of_verticalKeys normal positive unmodified vertical allowed
  have line : way.line = target := Buffer.line_verticalWay allowed.1 n
  have column := Buffer.col_verticalWay_eq_iff allowed.1 direction positive
  rw [counted_eq, repeated_eq]
  refine ⟨?_, Iff.trans ⟨congrArg Position.col, fun same => ?_⟩ column⟩
  · rw [← line]
    rfl
  · exact congrArg₂ Position.mk line.symm same

/-- Down to a line that is shorter than the one on the way. -/
theorem counted_vertical_motion_over_longer_line :
    let engine := (ofContent "abcd\nabcde\nab").run [.setCursor ⟨0, 3⟩]
    let down : KeyEvent := .char 'j'
    ((Reachable engine ∧ engine.mode = .normal .none) ∧
        down.modifiers.hasCommand = false ∧
        down.key ∈ Direction.forward.verticalKeys) ∧
      ((engine.typed (Text.decimal 5)).press down).engine.cursor = ⟨2, 1⟩ ∧
      ((engine.typed (Text.decimal 5)).press down).engine.cursor =
        (engine.pressAll (List.replicate 5 down)).engine.cursor := by
  intro engine down
  have reachable : Reachable engine := (Reachable.ofContent _).run _
  have normal : engine.mode = .normal .none := by decide +kernel
  have vertical : down.key ∈ Direction.forward.verticalKeys := by decide
  have unmodified : down.modifiers.hasCommand = false :=
    KeyEvent.hasCommand_char 'j'
  have motion :=
    reachable.counted_vertical_motion_iff normal (show 1 ≤ 5 by decide)
      (show 5 ≤ maxCount by decide) unmodified vertical
  refine ⟨⟨⟨reachable, normal⟩, unmodified, vertical⟩, by decide +kernel,
    motion.2.mpr fun line between => ?_⟩
  have start : engine.cursor.line = 0 := by decide +kernel
  have target : engine.buffer.lineBeyond .forward engine.cursor.line 5 = 2 := by
    decide +kernel
  obtain rfl : line = 1 := by
    rw [target, start, Between] at between
    omega
  decide +kernel

/--
Over an empty line two lines down: at once in the same column, but one by one in
the first.
-/
theorem counted_down_over_empty_line_keeps_column :
    let engine := (ofContent "abc\n\nabc").run [.setCursor ⟨0, 2⟩]
    let counted := ((engine.typed (Text.decimal 2)).press (.char 'j')).engine
    let repeated := (engine.pressAll (List.replicate 2 (.char 'j'))).engine
    (Reachable engine ∧ engine.mode = .normal .none) ∧
      counted.cursor = ⟨2, 2⟩ ∧ repeated.cursor = ⟨2, 0⟩ ∧
      counted.cursor ≠ repeated.cursor := by
  intro engine counted repeated
  have reachable : Reachable engine := (Reachable.ofContent _).run _
  have jumped : counted.cursor = ⟨2, 2⟩ := by decide +kernel
  have stepped : repeated.cursor = ⟨2, 0⟩ := by decide +kernel
  refine ⟨⟨reachable, by decide +kernel⟩, jumped, stepped, ?_⟩
  rw [jumped, stepped]
  decide

end Engine

end ModalEditing
