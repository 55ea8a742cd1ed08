import ModalEditing.Proofs.Engine.RepeatedMotion

namespace ModalEditing

namespace Text

/-- The characters of a text without its blanks. -/
def solid (text : Text) : Text :=
  text.filter (!Unicode.isBlank ·)

@[simp] theorem solid_append (first second : Text) :
    solid (first ++ second) = solid first ++ solid second :=
  List.filter_append ..

@[simp] theorem solid_trimStart (text : Text) :
    solid (trimStart text) = solid text := by
  induction text with
  | nil => rfl
  | cons c rest ih =>
      cases blank : Unicode.isBlank c with
      | false => simp [trimStart, blank]
      | true => simpa [solid, trimStart, blank] using ih

end Text

namespace Buffer

/-! Lines that are joined to the one above them. -/

theorem joined_eq (upper lower : Line) :
    joined upper lower =
      upper ++ (if upper ≠ [] ∧ Text.trimStart lower ≠ [] then [' '] else []) ++
        Text.trimStart lower := by
  unfold joined
  cases upper <;> cases Text.trimStart lower <;> simp

theorem solid_joined (upper lower : Line) :
    Text.solid (joined upper lower) = Text.solid upper ++ Text.solid lower := by
  have space :
      Text.solid
        (if upper ≠ [] ∧ Text.trimStart lower ≠ [] then [' '] else []) =
          [] := by
    split <;> rfl
  rw [joined_eq, Text.solid_append, Text.solid_append, space,
    Text.solid_trimStart, List.append_nil]

theorem solid_foldl_joined (upper : Line) (below : List Line) :
    Text.solid (below.foldl joined upper) =
      Text.solid (upper :: below).flatten := by
  induction below generalizing upper with
  | nil => simp
  | cons lower below ih =>
      rw [List.foldl_cons, ih, List.flatten_cons, List.flatten_cons,
        List.flatten_cons, Text.solid_append, Text.solid_append,
        Text.solid_append, solid_joined, List.append_assoc]

theorem joinNext?_of_below (above : List Line) (upper lower : Line)
    (below : List Line) :
    (Buffer.mk (above ++ upper :: lower :: below)).joinNext? above.length =
      some (⟨above ++ joined upper lower :: below⟩, upper.length) := by
  simp [joinNext?, line?, List.drop_append]

theorem joinNext?_of_last (above : List Line) (upper : Line) :
    (Buffer.mk (above ++ [upper])).joinNext? above.length = none := by
  simp [joinNext?, line?]

end Buffer

namespace Engine

variable {engine : Engine} {event : KeyEvent}

/-! Joining some lines at once and one after another. -/

/--
Joining goes through the lines below as a fold, until there are no more of them.
-/
theorem lines_joinTimes (above : List Line) (upper : Line) (below : List Line)
    (count : Nat) (joint : Option Nat) :
    (joinTimes above.length count ⟨above ++ upper :: below⟩ joint).1.lines =
      above ++ (below.take count).foldl Buffer.joined upper ::
        below.drop count := by
  induction count generalizing upper below joint with
  | zero => rfl
  | succ count ih =>
      cases below with
      | nil => simp [joinTimes, Buffer.joinNext?_of_last]
      | cons lower below =>
          simp only [joinTimes, Buffer.joinNext?_of_below, ih]
          rfl

theorem joinTimes_of_last {buffer : Buffer} {line : Nat}
    (last : buffer.joinNext? line = none) (count : Nat) (joint : Option Nat) :
    joinTimes line count buffer joint = (buffer, joint) := by
  cases count with
  | zero => rfl
  | succ count => simp only [joinTimes, last]

theorem joinTimes_add (line first second : Nat) (buffer : Buffer)
    (joint : Option Nat) :
    joinTimes line (first + second) buffer joint =
      joinTimes line second (joinTimes line first buffer joint).1
        (joinTimes line first buffer joint).2 := by
  induction first generalizing buffer joint with
  | zero => rw [Nat.zero_add, joinTimes]
  | succ first ih =>
      rw [Nat.add_right_comm]
      cases join : buffer.joinNext? line with
      | none => simp only [joinTimes_of_last join]
      | some next => simp only [joinTimes, join, ih]

/-- The editor after up to `count` joints at the line with the cursor. -/
def joinedTimes (engine : Engine) (count : Nat) : Engine :=
  let (buffer, joint) := joinTimes engine.cursor.line count engine.buffer none
  { engine with buffer := buffer }.moveToColumn joint

theorem joinLines_eq_joinedTimes (engine : Engine) (count : Nat) :
    engine.joinLines count = engine.joinedTimes (max count 2 - 1) := rfl

theorem lines_joinedTimes
    (within : engine.cursor.line < engine.buffer.lineCount) (count : Nat) :
    (engine.joinedTimes count).buffer.lines =
      engine.buffer.lines.take engine.cursor.line ++
        ((engine.buffer.lines.drop (engine.cursor.line + 1)).take count).foldl
            Buffer.joined engine.currentLine ::
          (engine.buffer.lines.drop (engine.cursor.line + 1)).drop count := by
  have above := Buffer.length_take_lines within
  have around : engine.buffer = ⟨engine.buffer.lines.take engine.cursor.line ++
      engine.currentLine ::
        engine.buffer.lines.drop (engine.cursor.line + 1)⟩ :=
    congrArg Buffer.mk (Buffer.lines_eq_at within)
  have joins :=
    lines_joinTimes (engine.buffer.lines.take engine.cursor.line)
      engine.currentLine (engine.buffer.lines.drop (engine.cursor.line + 1))
      count none
  rw [above, ← around] at joins
  unfold joinedTimes
  rw [← joins]
  generalize joinTimes engine.cursor.line count engine.buffer none = result
  obtain ⟨buffer, _ | joint⟩ := result <;> rfl

theorem lineCount_joinedTimes
    (within : engine.cursor.line < engine.buffer.lineCount) (count : Nat) :
    (engine.joinedTimes count).buffer.lineCount +
      min count (engine.buffer.lineCount - 1 - engine.cursor.line) =
        engine.buffer.lineCount := by
  have length := congrArg List.length (lines_joinedTimes within count)
  rw [List.length_append, Buffer.length_take_lines within, List.length_cons,
    List.length_drop, List.length_drop] at length
  unfold Buffer.lineCount at within ⊢
  omega

theorem solid_joinedTimes
    (within : engine.cursor.line < engine.buffer.lineCount) (count : Nat) :
    Text.solid (engine.joinedTimes count).buffer.lines.flatten =
      Text.solid engine.buffer.lines.flatten := by
  let above := engine.buffer.lines.take engine.cursor.line
  let below := engine.buffer.lines.drop (engine.cursor.line + 1)
  calc Text.solid (engine.joinedTimes count).buffer.lines.flatten
      = Text.solid above.flatten ++
          (Text.solid (engine.currentLine :: below.take count).flatten ++
            Text.solid (below.drop count).flatten) := by
        rw [lines_joinedTimes within, List.flatten_append, List.flatten_cons,
          Text.solid_append, Text.solid_append, Buffer.solid_foldl_joined]
    _ = Text.solid (above ++ engine.currentLine :: below).flatten := by
        rw [← Text.solid_append, ← Text.solid_append, ← List.flatten_append,
          ← List.flatten_append, List.cons_append, List.take_append_drop]
    _ = Text.solid engine.buffer.lines.flatten := by
        rw [currentLine, ← Buffer.lines_eq_at within]

theorem exists_joinedTimes_eq (normal : engine.mode = .normal .none)
    (within : engine.cursor.line < engine.buffer.lineCount) (count : Nat) :
    ∃ col, engine.joinedTimes count =
      { engine with
        buffer := (joinTimes engine.cursor.line count engine.buffer none).1
        cursor := ⟨engine.cursor.line, col⟩ } := by
  have left := lineCount_joinedTimes within count
  unfold joinedTimes at left ⊢
  generalize joinTimes engine.cursor.line count engine.buffer none =
    result at left ⊢
  obtain ⟨buffer, _ | joint⟩ := result
  · exact ⟨engine.cursor.col, rfl⟩
  · have below : engine.cursor.line ≤ buffer.lastLine := by
      change buffer.lineCount + _ = _ at left
      unfold Buffer.lastLine
      omega
    refine ⟨min joint (buffer.maxCol engine.cursor.line false), ?_⟩
    simp only [moveToColumn, moveTo, normal, follow, Mode.kind, nearest,
      Nat.min_eq_left below]
    rfl

theorem joinedTimes_succ (normal : engine.mode = .normal .none)
    (within : engine.cursor.line < engine.buffer.lineCount) (count : Nat) :
    (engine.joinedTimes count).joinedTimes 1 =
      engine.joinedTimes (count + 1) := by
  obtain ⟨col, before⟩ := exists_joinedTimes_eq normal within count
  rw [before]
  unfold joinedTimes at before ⊢
  rw [joinTimes_add]
  generalize joinTimes engine.cursor.line count engine.buffer none =
    result at before ⊢
  obtain ⟨buffer, joint⟩ := result
  cases join : buffer.joinNext? engine.cursor.line with
  | none =>
      simp only [joinTimes_of_last join]
      exact before.symm
  | some next =>
      obtain ⟨buffer, last⟩ := next
      simp only [joinTimes, join, moveToColumn, moveTo, normal, follow]

/-!
The key that joins lines, with a count before it and pressed again and again.
-/

section Pressed

variable (normal : engine.mode = .normal .none)
  (unmodified : event.modifiers.hasCommand = false)
  (joins : event.key = .char 'J')

include unmodified joins

theorem press_join {count : Option Nat}
    (normal : engine.mode = .normal ⟨count, none⟩) :
    (engine.press event).engine =
      (engine.enter (.normal .none)).joinLines (count.getD 1) := by
  have alone : event.key.StandsAlone := joins ▸ by decide
  rw [press_of_standsAlone normal rfl unmodified alone, joins]
  rfl

include normal

theorem press_counted_join {n : Nat} (positive : 1 ≤ n)
    (limited : n ≤ maxCount) :
    ((engine.typed (Text.decimal n)).press event).engine =
      engine.joinedTimes (max n 2 - 1) := by
  rw [typed_count normal positive limited, press_join unmodified joins rfl,
    ← joinLines_eq_joinedTimes]
  exact congrArg (joinLines · n) (enter_normal normal)

theorem engine_pressAll_join
    (within : engine.cursor.line < engine.buffer.lineCount) (count : Nat) :
    (engine.pressAll (List.replicate count event)).engine =
      engine.joinedTimes count := by
  rw [engine_pressAll_replicate]
  induction count with
  | zero => rfl
  | succ count ih =>
      obtain ⟨col, before⟩ := exists_joinedTimes_eq normal within count
      have still : (engine.joinedTimes count).mode = .normal .none := by
        rw [before, normal]
      rw [Function.iterate_succ_apply', ih, press_join unmodified joins still,
        enter_normal still, joinLines_eq_joinedTimes]
      exact joinedTimes_succ normal within count

end Pressed

/--
A count before the key that joins lines takes in that many lines, and two at
least. It joins them as a fold over the lines below the one with the cursor,
which loses blanks only, and it is as many presses of the key as there are
joints.
-/
theorem Reachable.joined_lines_eq_fold (reachable : Reachable engine)
    (normal : engine.mode = .normal .none) {n : Nat} (positive : 1 ≤ n)
    (limited : n ≤ maxCount) (unmodified : event.modifiers.hasCommand = false)
    (joins : event.key = .char 'J') :
    let counted := ((engine.typed (Text.decimal n)).press event).engine
    let repeated :=
      (engine.pressAll (List.replicate (max n 2 - 1) event)).engine
    let lines := engine.buffer.lines
    let line := engine.cursor.line
    let taken := min (max n 2 - 1) (engine.buffer.lineCount - 1 - line)
    let join (upper lower : Line) : Line :=
      upper ++ (if upper ≠ [] ∧ Text.trimStart lower ≠ [] then [' '] else []) ++
        Text.trimStart lower
    counted.buffer.lines =
        lines.take line ++
          ((lines.drop (line + 1)).take taken).foldl join engine.currentLine ::
            lines.drop (line + taken + 1) ∧
      counted.buffer.lineCount + taken = engine.buffer.lineCount ∧
      Text.solid counted.buffer.lines.flatten = Text.solid lines.flatten ∧
      counted.snapshot = repeated.snapshot := by
  intro counted repeated lines line taken join
  have within : line < engine.buffer.lineCount := reachable.coherent.cursor.1
  have once : counted = engine.joinedTimes (max n 2 - 1) :=
    press_counted_join normal unmodified joins positive limited
  have again : repeated = engine.joinedTimes (max n 2 - 1) :=
    engine_pressAll_join normal unmodified joins within _
  have rest :
      (lines.drop (line + 1)).length = engine.buffer.lineCount - 1 - line := by
    rw [List.length_drop, Nat.sub_sub, Nat.add_comm]
    rfl
  have all :
      (lines.drop (line + 1)).take (max n 2 - 1) =
        (lines.drop (line + 1)).take taken := by
    rw [List.take_eq_take_min, rest]
  have left :
      (lines.drop (line + 1)).drop (max n 2 - 1) =
        lines.drop (line + taken + 1) := by
    rw [List.drop_eq_drop_min, rest, List.drop_drop, Nat.add_right_comm]
  have joined : join = Buffer.joined := by
    funext upper lower
    exact (Buffer.joined_eq upper lower).symm
  refine ⟨?_, ?_, ?_, by rw [once, again]⟩
  · rw [once, lines_joinedTimes within, joined, all, left]
  · rw [once]
    exact lineCount_joinedTimes within _
  · rw [once]
    exact solid_joinedTimes within _

/--
More lines than there are, over a blank line and an indented one, from an empty
line.
-/
theorem joined_lines_eq_fold_past_last :
    let engine := ofContent "\n \n\tab\n c"
    let event : KeyEvent := .char 'J'
    ((Reachable engine ∧ engine.mode = .normal .none) ∧
        event.modifiers.hasCommand = false ∧ event.key = .char 'J') ∧
      ((engine.typed (Text.decimal 12)).press event).engine.buffer.lines =
          ["ab c"] ∧
        ((engine.typed (Text.decimal 12)).press event).engine.snapshot =
          (engine.pressAll (List.replicate 11 event)).engine.snapshot := by
  intro engine event
  have reachable : Reachable engine := .ofContent _
  have unmodified : event.modifiers.hasCommand = false :=
    KeyEvent.hasCommand_char 'J'
  obtain ⟨-, -, -, repeated⟩ :=
    reachable.joined_lines_eq_fold rfl (show 1 ≤ 12 by decide) (by decide)
      unmodified rfl
  exact ⟨⟨⟨reachable, rfl⟩, unmodified, rfl⟩, by decide +kernel, repeated⟩

end Engine

end ModalEditing
