import ModalEditing.Proofs.Engine.DeletionRoundTrip
import ModalEditing.Proofs.Engine.RepeatedMotion
import ModalEditing.Proofs.Motion.OnLine

namespace ModalEditing

namespace Engine

variable {engine other : Engine} {buffer : Buffer} {line start stop : Nat}

/-! What is removed from a line. -/

/--
The columns from `start` to before `stop` of a line of a buffer are gone, and
stored.
-/
structure HasRemoved (engine : Engine) (buffer : Buffer)
    (line start stop : Nat) : Prop where
  lines : engine.buffer.lines =
    buffer.lines.set line
      ((buffer.lineText line).take start ++ (buffer.lineText line).drop stop)
  stored : engine.registers.get? Registers.unnamed =
    some (((buffer.lineText line).drop start).take (stop - start))

theorem hasRemoved_cut (within : engine.cursor.line < engine.buffer.lineCount)
    (ordered : start ≤ stop) :
    (engine.cut start stop).HasRemoved engine.buffer engine.cursor.line
      start stop where
  lines := by
    have found : engine.buffer.lines[engine.cursor.line]? =
        some (engine.buffer.lineText engine.cursor.line) :=
      Buffer.line?_of_lt within
    have edited : (engine.cut start stop).buffer.lines =
        engine.buffer.lines.modify engine.cursor.line
          fun text => text.take start ++ text.drop (max start stop) := rfl
    rw [edited, List.modify_eq_set_getElem?, found, Nat.max_eq_right ordered]
    rfl
  stored := Registers.get?_store _ _ _ _

theorem HasRemoved.stop_eq (removed : engine.HasRemoved buffer line start stop)
    {other : Nat} (also : engine.HasRemoved buffer line start other)
    (above : start ≤ stop) (inside : stop ≤ buffer.lineLength line)
    (above' : start ≤ other) (inside' : other ≤ buffer.lineLength line) :
    stop = other := by
  have size :=
    congrArg (Option.map List.length) (removed.stored.symm.trans also.stored)
  unfold Buffer.lineLength at inside inside'
  simp only [Option.map_some, Option.some.injEq, List.length_take,
    List.length_drop] at size
  omega

theorem not_hasRemoved_of_lines_eq (same : engine.buffer.lines = buffer.lines)
    (within : line < buffer.lineCount) (some : start < stop)
    (inside : stop ≤ buffer.lineLength line) :
    ¬ engine.HasRemoved buffer line start stop := by
  intro removed
  have shorter := congrArg (fun lines => (Buffer.mk lines).lineLength line)
    (same.symm.trans removed.lines)
  unfold Buffer.lineLength at inside shorter
  simp only [Buffer.lineText_mk, List.getElem?_set_self within] at shorter
  change (buffer.lineText line).length = _ at shorter
  simp only [Option.getD_some, List.length_append, List.length_take,
    List.length_drop] at shorter
  omega

theorem HasRemoved.of_eq (removed : engine.HasRemoved buffer line start stop)
    (lines : other.buffer.lines = engine.buffer.lines)
    (registers : other.registers = engine.registers) :
    other.HasRemoved buffer line start stop :=
  ⟨lines.trans removed.lines, registers ▸ removed.stored⟩

theorem cursor_clampCursor_cut (normal : engine.mode = .normal .none)
    (within : engine.cursor.line < engine.buffer.lineCount) (start stop : Nat) :
    let next := (engine.cut start stop).clampCursor
    next.cursor = ⟨engine.cursor.line,
      min engine.cursor.col
        (next.buffer.lineLength engine.cursor.line - 1)⟩ := by
  have count :
      (engine.cut start stop).buffer.lines.length =
        engine.buffer.lines.length :=
    List.length_modify ..
  have number : min engine.cursor.line (engine.cut start stop).buffer.lastLine =
      engine.cursor.line := by
    refine Nat.min_eq_left ?_
    rw [Buffer.lastLine, Buffer.lineCount, count]
    exact Nat.le_sub_one_of_lt within
  have kind : (engine.cut start stop).mode.kind = .normal :=
    congrArg Mode.kind normal
  have cursor : (engine.cut start stop).cursor = engine.cursor := rfl
  simp only [clampCursor, nearest, cursor, number, kind]
  rfl

/-! How far the commands for words go. -/

/--
Looking on for `count` more ends of words stays on the line as long as it has
some. Then it goes to the end of the line if there is a word below, and else it
stops at the last one.
-/
theorem wordsEnd_eq (within : line < buffer.lineCount) {last : Nat}
    (ends : (buffer.lineText line).EndsWord last) (count : Nat) :
    let rest :=
      (buffer.lineText line).columnsFrom
        (buffer.lineText line).EndsWord (last + 1)
    (rest.length < count ∧ buffer.HasWordBelow line) ∧
        wordsEnd buffer line count (last + 1) = buffer.lineLength line ∨
      (count ≤ rest.length ∨ ¬ buffer.HasWordBelow line) ∧
        wordsEnd buffer line count (last + 1) =
          (rest.take count).getLast?.getD last + 1 := by
  induction count generalizing last with
  | zero => exact Or.inr ⟨Or.inl (Nat.zero_le _), rfl⟩
  | succ count ih =>
      have gap : buffer.hasGap ⟨line, last⟩ = true :=
        (Buffer.hasGap_iff _ _).mpr ⟨within, Nat.le_of_lt ends.inWord.lt_length⟩
      obtain ⟨answer, foremost⟩ : ∃ answer, IsForemost (· ≤ ·)
          {next | last < next ∧ (buffer.lineText line).EndsWord next} answer :=
        ⟨_, (buffer.lineText line).isForemost_endsWord_from (last + 1)⟩
      cases answer with
      | some next =>
          obtain ⟨further, here⟩ := foremost.1
          have step := Buffer.wordEnd_of_foremost gap foremost
          have columns :=
            Line.columnsFrom_eq_cons foremost here.inWord.lt_length
          have goesOn : wordsEnd buffer line (count + 1) (last + 1) =
              wordsEnd buffer line count (next + 1) := by
            have behind : ¬ next < last + 1 := Nat.not_lt_of_le further
            simp only [wordsEnd, Nat.add_sub_cancel, step, ne_eq,
              not_true_eq_false, if_false, if_neg behind]
          simp only [goesOn, columns, List.length_cons,
            Nat.add_lt_add_iff_right, Nat.add_le_add_iff_right,
            List.take_succ_cons, List.getLast?_cons, Option.getD_some]
          exact ih here
      | none =>
          rw [Line.columnsFrom_eq_nil foremost]
          rcases Buffer.wordEnd_of_none gap foremost with
              ⟨leaves, below⟩ | ⟨stays, above⟩
          · refine Or.inl ⟨⟨Nat.zero_lt_succ count, below⟩, ?_⟩
            simp only [wordsEnd, Nat.add_sub_cancel,
              if_pos (Nat.ne_of_gt leaves)]
          · refine Or.inr ⟨Or.inr above, ?_⟩
            simp [wordsEnd, stays]

theorem deleteWord_eq (coherent : engine.Coherent)
    (inside : engine.cursor.col < engine.currentLine.length) {n : Nat}
    (positive : 1 ≤ n) :
    engine.deleteWord n = engine.cut engine.cursor.col
      ((engine.currentLine.columnsFrom engine.currentLine.StartsWord
          (engine.cursor.col + 1))[n - 1]?.getD
        engine.currentLine.length) := by
  obtain ⟨before, rfl⟩ := Nat.exists_eq_add_of_le' positive
  have column :=
    Buffer.columnOn_iterate_wordForward coherent.hasGap (before + 1)
  rw [List.getElem?_cons_succ, ← repeatMotion_eq_iterate] at column
  unfold deleteWord
  dsimp only
  rw [if_pos inside]
  exact congrArg (engine.cut engine.cursor.col) column

theorem wordStop_bounds (line : Line) (col index : Nat)
    (inside : col < line.length) :
    let stop :=
      (line.columnsFrom line.StartsWord (col + 1))[index]?.getD line.length
    col < stop ∧ stop ≤ line.length := by
  dsimp only
  cases found : (line.columnsFrom line.StartsWord (col + 1))[index]? with
  | none => exact ⟨inside, Nat.le_refl _⟩
  | some start =>
      obtain ⟨above, below, -⟩ :=
        Line.mem_columnsFrom.mp (List.mem_of_getElem? found)
      exact ⟨above, Nat.le_of_lt below⟩

theorem changeWord_eq (within : engine.cursor.line < engine.buffer.lineCount)
    (word : engine.currentLine.InWord engine.cursor.col) {n : Nat}
    (positive : 1 ≤ n) :
    let ends :=
      engine.currentLine.columnsFrom engine.currentLine.EndsWord
        engine.cursor.col
    ∃ last, (ends.take n).getLast? = some last ∧
      ((ends.length < n ∧ engine.buffer.HasWordBelow engine.cursor.line) ∧
          engine.changeWord n =
            engine.cut engine.cursor.col engine.currentLine.length ∨
        (n ≤ ends.length ∨ ¬ engine.buffer.HasWordBelow engine.cursor.line) ∧
          engine.changeWord n = engine.cut engine.cursor.col (last + 1)) := by
  obtain ⟨before, rfl⟩ := Nat.exists_eq_add_of_le' positive
  have foremost := Line.isForemost_endsWord_of_inWord word
  have ends := foremost.1.2
  have stop : engine.currentLine.runEnd engine.cursor.col - 1 + 1 =
      engine.currentLine.runEnd engine.cursor.col := by
    refine Nat.sub_one_add_one (Nat.ne_of_gt ?_)
    exact Nat.add_pos_right _ word.runLength_pos
  have changed : engine.changeWord (before + 1) = engine.cut engine.cursor.col
      (wordsEnd engine.buffer engine.cursor.line before
        (engine.currentLine.runEnd engine.cursor.col - 1 + 1)) := by
    unfold changeWord
    dsimp only
    rw [if_pos word.lt_length, stop, Nat.add_sub_cancel]
  have reached := wordsEnd_eq within ends before
  dsimp only at reached ⊢
  rw [Line.columnsFrom_eq_cons foremost ends.inWord.lt_length,
    List.take_succ_cons, List.getLast?_cons, List.length_cons, changed]
  refine ⟨_, rfl, ?_⟩
  rcases reached with ⟨⟨fewer, below⟩, same⟩ | ⟨enough, same⟩
  · exact Or.inl ⟨⟨Nat.succ_lt_succ fewer, below⟩, congrArg _ same⟩
  · exact Or.inr ⟨enough.imp_left Nat.succ_le_succ, congrArg _ same⟩

/--
The blanks at the end of a line are no part of its words, but may go with them.
-/
theorem hasRemoved_changeWord_iff
    (within : engine.cursor.line < engine.buffer.lineCount)
    (word : engine.currentLine.InWord engine.cursor.col) {n : Nat}
    (positive : 1 ≤ n) :
    let ends :=
      engine.currentLine.columnsFrom engine.currentLine.EndsWord
        engine.cursor.col
    ∃ last, (ends.take n).getLast? = some last ∧
      (engine.cursor.col ≤ last ∧ last < engine.currentLine.length) ∧
      ((engine.changeWord n).HasRemoved engine.buffer engine.cursor.line
          engine.cursor.col (last + 1) ↔
        n ≤ ends.length ∨ last + 1 = engine.currentLine.length ∨
          ¬ engine.buffer.HasWordBelow engine.cursor.line) := by
  intro ends
  obtain ⟨last, found, reached⟩ := changeWord_eq within word positive
  obtain ⟨above, below, -⟩ :=
    Line.mem_columnsFrom.mp (List.mem_of_mem_take (List.mem_of_getLast? found))
  refine ⟨last, found, ⟨above, below⟩, ?_⟩
  rcases reached with ⟨⟨fewer, words⟩, same⟩ | ⟨enough, same⟩
  · have inside : engine.cursor.col ≤ engine.currentLine.length :=
      Nat.le_of_lt word.lt_length
    have whole := hasRemoved_cut within inside
    rw [same]
    constructor
    · intro also
      refine Or.inr (Or.inl ?_)
      exact also.stop_eq whole (Nat.le_succ_of_le above) below inside
        (Nat.le_refl _)
    · rintro (enough | all | alone)
      · exact absurd enough (Nat.not_le_of_lt fewer)
      · rw [all]
        exact whole
      · exact absurd words alone
  · rw [same]
    exact iff_of_true (hasRemoved_cut within (Nat.le_succ_of_le above))
      (enough.imp_right Or.inr)

/-! The keys. -/

section Counted

variable {n : Nat} (normal : engine.mode = .normal .none) (positive : 1 ≤ n)
  (limited : n ≤ maxCount)

include normal positive limited

theorem typed_delete_word
    (timely : engine.now < engine.now + engine.settings.wait) :
    engine.typed (Text.decimal n ++ ['d', 'w']) =
      (engine.deleteWord n).clampCursor := by
  rw [typed_count_command normal positive limited rfl rfl rfl timely]
  rfl

theorem typed_change_word
    (timely : engine.now < engine.now + engine.settings.wait) :
    engine.typed (Text.decimal n ++ ['c', 'w']) =
      (engine.changeWord n).enter .insert := by
  rw [typed_count_command normal positive limited rfl rfl rfl timely]
  rfl

theorem typed_late_word {first : Char} {held : Prefix}
    (noDigit : Text.digit? first = none)
    (starts : Prefix.ofNormalKey? first = some held)
    (late : ¬ engine.now < engine.now + engine.settings.wait) :
    let moved := engine.typed (Text.decimal n ++ [first, 'w'])
    moved.buffer.lines = engine.buffer.lines ∧
      moved.registers = engine.registers := by
  have moved : engine.typed (Text.decimal n ++ ['w']) =
      engine.moveTo (repeatMotion engine.buffer.wordForward n engine.cursor) :=
    typed_count_single normal positive limited rfl rfl
  rw [typed_count_late normal positive limited noDigit starts late, moved]
  exact ⟨rfl, rfl⟩

end Counted

/--
Words are deleted with the blanks behind them, up to the start of the word
behind the last of them if it is on the line, and else to the end of the line.
If the first key is dropped before the second one comes, nothing is deleted, and
neither is anything on an empty line.
-/
theorem Reachable.deleted_words_iff (reachable : Reachable engine)
    (normal : engine.mode = .normal .none) {n : Nat} (positive : 1 ≤ n)
    (limited : n ≤ maxCount) :
    let line := engine.currentLine
    let col := engine.cursor.col
    let starts := line.columnsFrom line.StartsWord (col + 1)
    let deleted := engine.typed (Text.decimal n ++ ['d', 'w'])
    let timely := engine.now < engine.now + engine.settings.wait
    (line = [] ∨ ¬ timely → deleted.buffer.lines = engine.buffer.lines ∧
      deleted.registers = engine.registers) ∧
    (line ≠ [] →
      (deleted.HasRemoved engine.buffer engine.cursor.line col
            (starts[n - 1]?.getD line.length) ∧
          deleted.cursor = ⟨engine.cursor.line,
            min col (deleted.buffer.lineLength engine.cursor.line - 1)⟩ ↔
        timely)) := by
  intro line col starts deleted timely
  have coherent := reachable.coherent
  have within := coherent.cursor.1
  by_cases soon : timely
  · have runs : deleted = (engine.deleteWord n).clampCursor :=
      typed_delete_word normal positive limited soon
    rw [runs]
    refine ⟨fun either => ?_, fun some => iff_of_true ?_ soon⟩
    · have empty : line.length ≤ col := by
        simp [either.resolve_right (not_not_intro soon)]
      have same : engine.deleteWord n = engine :=
        if_neg (Nat.not_lt_of_le empty)
      rw [same]
      exact ⟨rfl, rfl⟩
    · have inside := coherent.col_lt_length normal some
      obtain ⟨further, -⟩ := wordStop_bounds line col (n - 1) inside
      rw [deleteWord_eq coherent inside positive]
      exact ⟨(hasRemoved_cut within (Nat.le_of_lt further)).of_eq rfl rfl,
        cursor_clampCursor_cut normal within _ _⟩
  · have unchanged : deleted.buffer.lines = engine.buffer.lines ∧
        deleted.registers = engine.registers :=
      typed_late_word normal positive limited rfl rfl soon
    refine ⟨fun _ => unchanged, fun some => iff_of_false (fun both => ?_) soon⟩
    obtain ⟨further, inside⟩ :=
      wordStop_bounds line col (n - 1) (coherent.col_lt_length normal some)
    exact not_hasRemoved_of_lines_eq unchanged.1 within further inside both.1

/--
A word of punctuation and the blanks behind it, all words of a line, and an
empty line.
-/
theorem deleted_words_over_punctuation :
    let engine := (ofContent "ab, c  \n\nd").run [.setCursor ⟨0, 1⟩]
    let below := engine.run [.setCursor ⟨1, 0⟩]
    (Reachable engine ∧ engine.mode = .normal .none ∧ engine.currentLine ≠ [] ∧
        engine.now < engine.now + engine.settings.wait) ∧
      (Reachable below ∧ below.mode = .normal .none ∧ below.currentLine = []) ∧
      (engine.typed (Text.decimal 2 ++ ['d', 'w'])).HasRemoved
        engine.buffer 0 1 4 ∧
      (engine.typed (Text.decimal 3 ++ ['d', 'w'])).HasRemoved
        engine.buffer 0 1 7 ∧
      (engine.typed (Text.decimal 3 ++ ['d', 'w'])).cursor = ⟨0, 0⟩ ∧
      (below.typed (Text.decimal 2 ++ ['d', 'w'])).buffer.lines =
        below.buffer.lines := by
  intro engine below
  have reachable : Reachable engine := (Reachable.ofContent _).run _
  have normal : engine.mode = .normal .none := by decide +kernel
  have nonempty : engine.currentLine ≠ [] := by decide +kernel
  have timely : engine.now < engine.now + engine.settings.wait := by
    decide +kernel
  have lower : Reachable below := reachable.run _
  have normal' : below.mode = .normal .none := by decide +kernel
  have empty : below.currentLine = [] := by decide +kernel
  have two :=
    ((reachable.deleted_words_iff normal (show 1 ≤ 2 by decide) (by decide)).2
      nonempty).mpr timely
  have three :=
    ((reachable.deleted_words_iff normal (show 1 ≤ 3 by decide) (by decide)).2
      nonempty).mpr timely
  have none := (lower.deleted_words_iff normal' (show 1 ≤ 2 by decide)
    (by decide)).1 (Or.inl empty)
  have cursor : engine.cursor = ⟨0, 1⟩ := by decide +kernel
  have starts :
      engine.currentLine.columnsFrom engine.currentLine.StartsWord 2 =
        [2, 4] := by
    decide +kernel
  have length : engine.currentLine.length = 7 := by decide +kernel
  simp only [cursor, Nat.reduceAdd, starts, length] at two three
  exact ⟨⟨reachable, normal, nonempty, timely⟩, ⟨lower, normal', empty⟩, two.1,
    three.1, by decide +kernel, none.1⟩

/--
A `d` that is overdue at once deletes nothing, and the `w` behind it moves.
-/
theorem late_word_deletion_moves :
    let engine := (ofContent "ab cd").run [.tick .longest]
    let moved := engine.typed (Text.decimal 1 ++ ['d', 'w'])
    (Reachable engine ∧ engine.mode = .normal .none ∧ engine.cursor = ⟨0, 0⟩ ∧
        engine.currentLine = "ab cd".toList ∧
        engine.currentLine.columnsFrom engine.currentLine.StartsWord 1 = [3]) ∧
      ¬ moved.HasRemoved engine.buffer 0 0 3 ∧
      moved.buffer.lines = engine.buffer.lines ∧ moved.cursor = ⟨0, 3⟩ := by
  intro engine moved
  have lines : moved.buffer.lines = engine.buffer.lines := by decide +kernel
  refine ⟨⟨(Reachable.ofContent _).run _, by decide +kernel, by decide +kernel,
    by decide +kernel, by decide +kernel⟩, ?_, lines, by decide +kernel⟩
  exact not_hasRemoved_of_lines_eq lines (by decide +kernel) (by decide)
    (by decide +kernel)

/--
Words are changed without the blanks behind the last of them if their ends are
on the line or there are no words below it, and in time. If the line has fewer
words and there are others below it, the blanks at its end go as well.
-/
theorem Reachable.changed_words_iff (reachable : Reachable engine)
    (normal : engine.mode = .normal .none)
    (word : engine.currentLine.InWord engine.cursor.col) {n : Nat}
    (positive : 1 ≤ n) (limited : n ≤ maxCount) :
    let line := engine.currentLine
    let col := engine.cursor.col
    let ends := line.columnsFrom line.EndsWord col
    let changed := engine.typed (Text.decimal n ++ ['c', 'w'])
    ∃ last, (ends.take n).getLast? = some last ∧
      (changed.HasRemoved engine.buffer engine.cursor.line col (last + 1) ↔
        engine.now < engine.now + engine.settings.wait ∧
          (n ≤ ends.length ∨ last + 1 = line.length ∨
            ¬ engine.buffer.HasWordBelow engine.cursor.line)) := by
  intro line col ends changed
  have within := reachable.coherent.cursor.1
  obtain ⟨last, found, ⟨above, below⟩, removes⟩ :=
    hasRemoved_changeWord_iff within word positive
  refine ⟨last, found, ?_⟩
  by_cases timely : engine.now < engine.now + engine.settings.wait
  · have runs : changed = (engine.changeWord n).enter .insert :=
      typed_change_word normal positive limited timely
    rw [and_iff_right timely, ← removes, runs]
    exact ⟨fun removed =>
      removed.of_eq rfl rfl, fun removed => removed.of_eq rfl rfl⟩
  · have unchanged : changed.buffer.lines = engine.buffer.lines :=
      (typed_late_word normal positive limited rfl rfl timely).1
    refine iff_of_false ?_ fun both => timely both.1
    exact not_hasRemoved_of_lines_eq unchanged within
      (Nat.lt_succ_of_le above) below

/--
Two words with another below the line, and more words than there are from the
last line on.
-/
theorem changed_words_up_to_punctuation :
    let engine := (ofContent "ab, c  \nd  ").run [.setCursor ⟨0, 1⟩]
    let below := engine.run [.setCursor ⟨1, 0⟩]
    (Reachable engine ∧ engine.mode = .normal .none ∧
        engine.currentLine.InWord 1 ∧
        engine.now < engine.now + engine.settings.wait) ∧
      (Reachable below ∧ below.mode = .normal .none ∧
        below.currentLine.InWord 0 ∧
        below.now < below.now + below.settings.wait ∧
        ¬ below.buffer.HasWordBelow 1) ∧
      (engine.typed (Text.decimal 2 ++ ['c', 'w'])).HasRemoved
        engine.buffer 0 1 3 ∧
      (below.typed (Text.decimal 9 ++ ['c', 'w'])).HasRemoved
        below.buffer 1 0 1 := by
  intro engine below
  have reachable : Reachable engine := (Reachable.ofContent _).run _
  have lower : Reachable below := reachable.run _
  have normal : engine.mode = .normal .none := by decide +kernel
  have normal' : below.mode = .normal .none := by decide +kernel
  have timely : engine.now < engine.now + engine.settings.wait := by
    decide +kernel
  have timely' : below.now < below.now + below.settings.wait := by
    decide +kernel
  have cursor : engine.cursor = ⟨0, 1⟩ := by decide +kernel
  have cursor' : below.cursor = ⟨1, 0⟩ := by decide +kernel
  have ends :
      engine.currentLine.columnsFrom engine.currentLine.EndsWord 1 =
        [1, 2, 4] := by
    decide +kernel
  have ends' :
      below.currentLine.columnsFrom below.currentLine.EndsWord 0 = [0] := by
    decide +kernel
  have word : engine.currentLine.InWord 1 :=
    ⟨.word, by decide, by decide +kernel⟩
  have word' : below.currentLine.InWord 0 :=
    ⟨.word, by decide, by decide +kernel⟩
  have lowest : ¬ below.buffer.HasWordBelow 1 := by
    rintro ⟨other, further, col, word⟩
    have within := Buffer.lt_lineCount_of_lt_lineLength word.lt_length
    have count : below.buffer.lineCount = 2 := by decide +kernel
    omega
  have two :=
    reachable.changed_words_iff normal (by rwa [cursor])
      (show 1 ≤ 2 by decide) (by decide)
  have nine :=
    lower.changed_words_iff normal' (by rwa [cursor'])
      (show 1 ≤ 9 by decide) (by decide)
  simp only [cursor, ends] at two
  simp only [cursor', ends'] at nine
  obtain ⟨last, second, removes⟩ := two
  obtain ⟨last', only, removes'⟩ := nine
  cases second
  cases only
  exact ⟨⟨reachable, normal, word, timely⟩,
    ⟨lower, normal', word', timely', lowest⟩,
    removes.mpr ⟨timely, Or.inl (by decide)⟩,
    removes'.mpr ⟨timely', Or.inr (Or.inr lowest)⟩⟩

/--
With one more word asked for than a line has, the line below it decides about
its last blank.
-/
theorem change_takes_blank_before_word_below :
    let engine := ofContent "foo \nbar"
    let alone := ofContent "foo "
    let changed := engine.typed (Text.decimal 2 ++ ['c', 'w'])
    (Reachable engine ∧ engine.mode = .normal .none ∧ engine.cursor = ⟨0, 0⟩ ∧
        engine.currentLine = "foo ".toList ∧ engine.currentLine.InWord 0 ∧
        engine.currentLine.columnsFrom engine.currentLine.EndsWord 0 = [2]) ∧
      changed.buffer.lines = [[], "bar".toList] ∧
      changed.registers.get? Registers.unnamed = some "foo ".toList ∧
      ¬ changed.HasRemoved engine.buffer 0 0 3 ∧
      (Reachable alone ∧ alone.currentLine = engine.currentLine ∧
        (alone.typed (Text.decimal 2 ++ ['c', 'w'])).HasRemoved alone.buffer
          0 0 3) := by
  intro engine alone changed
  have lines : changed.buffer.lines = [[], "bar".toList] := by decide +kernel
  refine ⟨⟨.ofContent _, rfl, rfl, by decide +kernel,
    ⟨.word, by decide, by decide +kernel⟩, by decide +kernel⟩, lines,
    by decide +kernel, fun removed => ?_, .ofContent _, by decide +kernel,
    by decide +kernel, by decide +kernel⟩
  have blank := lines.symm.trans removed.lines
  exact absurd blank (by decide +kernel)

end Engine

end ModalEditing
