import Mathlib.Logic.Function.Iterate
import ModalEditing.Proofs.Motion.WordMotions

namespace ModalEditing

open Unicode

namespace Line

variable {line : Line} {col : Nat}

/-!
The columns of a line where words start or end, and the word motions as far as
they stay on their line.
-/

instance (line : Line) : DecidablePred line.StartsWord := fun col =>
  decidable_of_iff
    (∃ kind ∈ line.class? col, kind ≠ .blank ∧
      (col = 0 ∨ line.class? (col - 1) ≠ some kind)) <| by
    refine exists_congr fun kind => ?_
    rw [Option.mem_def, and_left_comm]
    refine and_congr_right fun _ => and_congr_right fun _ => ?_
    cases col with
    | zero => simp
    | succ before => simp

instance (line : Line) : DecidablePred line.EndsWord := fun col =>
  decidable_of_iff
    (∃ kind ∈ line.class? col, kind ≠ .blank ∧
      line.class? (col + 1) ≠ some kind) <|
    exists_congr fun _ => and_left_comm

def columnsFrom (line : Line) (kind : Nat → Prop) [DecidablePred kind]
    (start : Nat) : List Nat :=
  (List.range' start (line.length - start)).filter kind

section Columns

variable {kind : Nat → Prop} [DecidablePred kind] {start : Nat}

theorem mem_columnsFrom : col ∈ line.columnsFrom kind start ↔
    start ≤ col ∧ col < line.length ∧ kind col := by
  rw [columnsFrom, List.mem_filter, List.mem_range'_1, decide_eq_true_iff]
  constructor
  · rintro ⟨⟨above, below⟩, here⟩
    exact ⟨above, by omega, here⟩
  · rintro ⟨above, below, here⟩
    exact ⟨⟨above, by omega⟩, here⟩

theorem columnsFrom_eq_nil
    (foremost : IsForemost (· ≤ ·) {col | start ≤ col ∧ kind col} none) :
    line.columnsFrom kind start = [] := by
  refine List.eq_nil_iff_forall_not_mem.mpr fun col member => ?_
  obtain ⟨above, -, here⟩ := mem_columnsFrom.mp member
  exact foremost col ⟨above, here⟩

theorem columnsFrom_eq_cons {first : Nat}
    (foremost : IsForemost (· ≤ ·) {col | start ≤ col ∧ kind col} (some first))
    (inside : first < line.length) :
    line.columnsFrom kind start =
      first :: line.columnsFrom kind (first + 1) := by
  obtain ⟨⟨above, here⟩, least⟩ := foremost
  have split : List.range' start (line.length - start) =
      List.range' start (first - start) ++
        first :: List.range' (first + 1) (line.length - (first + 1)) := by
    have size :
        line.length - start =
          first - start + (line.length - (first + 1) + 1) := by
      omega
    have next : start + (first - start) = first := Nat.add_sub_cancel' above
    rw [size, ← List.range'_append_1, next, List.range'_succ]
  refine List.filter_eq_cons_iff.mpr
    ⟨_, _, split, fun col before chosen => ?_, by simpa, rfl⟩
  obtain ⟨lower, upper⟩ := List.mem_range'_1.mp before
  have behind := least col ⟨lower, of_decide_eq_true chosen⟩
  omega

end Columns

theorem InWord.exists_endsWord (word : line.InWord col) :
    ∃ last, line.EndsWord last := by
  have words := line.isForemost_inWord
  have ends := line.isForemost_firstEnd?
  rw [firstEnd?_eq] at ends
  cases found : line.findIdx? (!isBlank ·) with
  | none =>
      rw [found] at words
      exact absurd word (words col)
  | some first =>
      rw [found] at ends
      exact ⟨_, ends.1⟩

theorem isForemost_endsWord_of_inWord (word : line.InWord col) :
    IsForemost (· ≤ ·) {last | col ≤ last ∧ line.EndsWord last}
      (some (line.runEnd col - 1)) := by
  obtain ⟨inside, solid⟩ := inWord_iff_getElem.mp word
  have first : (line.drop col).findIdx? (!isBlank ·) = some 0 := by
    rw [List.drop_eq_getElem_cons inside, List.findIdx?_cons, solid]
    rfl
  have positive := word.runLength_pos
  have last :
      col + (0 + runLength (line.drop col) - 1) = line.runEnd col - 1 := by
    unfold runEnd
    omega
  have ends := line.isForemost_endsWord_from col
  rwa [firstEnd?_eq, first, Option.map_some, Option.map_some, List.drop_zero,
    last] at ends

end Line

namespace Buffer

variable {buffer : Buffer} {line col first : Nat} {p q : Position}

theorem eq_some_of_on_line (columns : Line → Set Nat)
    (within : line < buffer.lineCount)
    (foremost : IsForemost (· ≤ ·) {next | col < next ∧
      next ∈ columns (buffer.lineText line)} (some first))
    {answer : Option Position}
    (found : IsForemost (· ≤ ·) {q ∈ buffer.places columns | ⟨line, col⟩ < q}
      answer) : answer = some ⟨line, first⟩ := by
  obtain ⟨⟨further, here⟩, least⟩ := foremost
  refine (found.eq_some_iff Position.eq_of_le_of_le).mpr
    ⟨⟨⟨within, here⟩, Or.inr ⟨rfl, further⟩⟩, ?_⟩
  rintro ⟨other, next⟩ ⟨⟨-, member⟩, below | ⟨rfl, beyond⟩⟩
  · exact Or.inl below
  · exact Or.inr ⟨rfl, least next ⟨beyond, member⟩⟩

theorem lt_line_of_none_on_line (columns : Line → Set Nat)
    (foremost : IsForemost (· ≤ ·) {next | col < next ∧
      next ∈ columns (buffer.lineText line)} none)
    (member : q ∈ buffer.places columns) (further : ⟨line, col⟩ < q) :
    line < q.line := by
  obtain ⟨other, next⟩ := q
  rcases further with below | ⟨rfl, beyond⟩
  · exact below
  · exact absurd ⟨beyond, member.2⟩ (foremost next)

/-! Forward from start to start. -/

/-- A place below a line, or the end of the line if it is the last one. -/
def IsPast (buffer : Buffer) (line : Nat) (p : Position) : Prop :=
  line < p.line ∨ line = buffer.lastLine ∧ p = ⟨line, buffer.lineLength line⟩

/--
The column of a place that is on a line, and the end of the line for another
place.
-/
def columnOn (buffer : Buffer) (line : Nat) (p : Position) : Nat :=
  if p.line = line then p.col else buffer.lineLength line

theorem columnOn_self (buffer : Buffer) (line col : Nat) :
    buffer.columnOn line ⟨line, col⟩ = col :=
  if_pos rfl

theorem IsPast.columnOn_eq (past : buffer.IsPast line p) :
    buffer.columnOn line p = buffer.lineLength line := by
  rcases past with below | ⟨-, rfl⟩
  · exact if_neg (Nat.ne_of_gt below)
  · exact columnOn_self buffer line _

theorem isPast_end (within : line < buffer.lineCount) :
    buffer.IsPast line ⟨buffer.lastLine,
      buffer.lineLength buffer.lastLine⟩ := by
  rcases Nat.eq_or_lt_of_le (Nat.le_sub_one_of_lt within) with rfl | below
  · exact Or.inr ⟨rfl, rfl⟩
  · exact Or.inl below

theorem IsPast.wordForward (past : buffer.IsPast line p)
    (gap : buffer.hasGap p = true) :
    buffer.IsPast line (buffer.wordForward p) := by
  have within := ((hasGap_iff buffer p).mp gap).1
  have above : line ≤ p.line := by
    rcases past with below | ⟨-, rfl⟩
    · exact Nat.le_of_lt below
    · exact Nat.le_refl line
  rcases wordForward_isLeast gap with ⟨⟨stop, further⟩, -⟩ | ⟨-, moved⟩
  · rcases past with below | ⟨last, rfl⟩
    · rcases further with lower | ⟨same, -⟩
      · exact Or.inl (Nat.lt_trans below lower)
      · exact Or.inl (same ▸ below)
    · -- There is no place behind the end of the last line.
      obtain ⟨inside, short⟩ := (hasGap_iff buffer _).mp stop.hasGap
      rcases further with lower | ⟨same, beyond⟩
      · unfold lastLine at last
        omega
      · rw [← same] at short
        exact absurd short (Nat.not_le_of_lt beyond)
  · rw [moved]
    exact isPast_end (Nat.lt_of_le_of_lt above within)

section Forward

variable (gap : buffer.hasGap ⟨line, col⟩ = true)

include gap

theorem wordForward_of_foremost
    (foremost : IsForemost (· ≤ ·) {next | col < next ∧
      (buffer.lineText line).StartsWord next} (some first)) :
    buffer.wordForward ⟨line, col⟩ = ⟨line, first⟩ := by
  have within := ((hasGap_iff buffer _).mp gap).1
  have stops := Line.isForemost_isStop_behind foremost
  obtain ⟨answer, found, moved⟩ := isForemost_wordForward gap
  rw [moved, eq_some_of_on_line Line.IsStop within stops found,
    Option.getD_some]

theorem isPast_wordForward
    (foremost : IsForemost (· ≤ ·) {next | col < next ∧
      (buffer.lineText line).StartsWord next} none) :
    buffer.IsPast line (buffer.wordForward ⟨line, col⟩) := by
  have within := ((hasGap_iff buffer _).mp gap).1
  have stops := Line.isForemost_isStop_behind foremost
  rcases wordForward_isLeast gap with ⟨⟨stop, further⟩, -⟩ | ⟨-, moved⟩
  · exact Or.inl (lt_line_of_none_on_line Line.IsStop stops stop further)
  · rw [moved]
    exact isPast_end within

end Forward

theorem IsPast.iterate_wordForward (past : buffer.IsPast line p)
    (gap : buffer.hasGap p = true) (count : Nat) :
    buffer.IsPast line (buffer.wordForward^[count] p) := by
  induction count generalizing p with
  | zero => exact past
  | succ count ih => exact ih (past.wordForward gap) (hasGap_wordForward gap)

/--
On the line where it begins, a way from start to start of words goes along those
of the line, and from the last one to the end of the line or to other lines.
-/
theorem columnOn_iterate_wordForward (gap : buffer.hasGap ⟨line, col⟩ = true)
    (count : Nat) :
    buffer.columnOn line (buffer.wordForward^[count] ⟨line, col⟩) =
      (col :: (buffer.lineText line).columnsFrom
          (buffer.lineText line).StartsWord (col + 1))[count]?.getD
        (buffer.lineLength line) := by
  induction count generalizing col with
  | zero => exact columnOn_self buffer line col
  | succ count ih =>
      obtain ⟨answer, foremost⟩ : ∃ answer, IsForemost (· ≤ ·)
          {next | col < next ∧ (buffer.lineText line).StartsWord next} answer :=
        ⟨_, (buffer.lineText line).isForemost_startsWord_behind col⟩
      rw [Function.iterate_succ_apply]
      cases answer with
      | some first =>
          have gap' : buffer.hasGap ⟨line, first⟩ = true := by
            rw [← wordForward_of_foremost gap foremost]
            exact hasGap_wordForward gap
          rw [wordForward_of_foremost gap foremost, ih gap',
            Line.columnsFrom_eq_cons foremost foremost.1.2.inWord.lt_length,
            List.getElem?_cons_succ]
      | none =>
          have past := isPast_wordForward gap foremost
          rw [(past.iterate_wordForward (hasGap_wordForward gap)
            count).columnOn_eq, Line.columnsFrom_eq_nil foremost]
          rfl

/-! On from end to end. -/

/-- There is a character other than a blank somewhere below a line. -/
def HasWordBelow (buffer : Buffer) (line : Nat) : Prop :=
  ∃ below, line < below ∧ ∃ col, (buffer.lineText below).InWord col

section End

variable (gap : buffer.hasGap ⟨line, col⟩ = true)

include gap

theorem wordEnd_of_foremost
    (foremost : IsForemost (· ≤ ·) {next | col < next ∧
      (buffer.lineText line).EndsWord next} (some first)) :
    buffer.wordEnd ⟨line, col⟩ = ⟨line, first⟩ := by
  have within := ((hasGap_iff buffer _).mp gap).1
  obtain ⟨answer, found, moved⟩ := isForemost_wordEnd gap
  rw [moved, eq_some_of_on_line Line.EndsWord within foremost found,
    Option.getD_some]

theorem wordEnd_of_none
    (foremost : IsForemost (· ≤ ·) {next | col < next ∧
      (buffer.lineText line).EndsWord next} none) :
    line < (buffer.wordEnd ⟨line, col⟩).line ∧ buffer.HasWordBelow line ∨
      buffer.wordEnd ⟨line, col⟩ = ⟨line, col⟩ ∧
        ¬ buffer.HasWordBelow line := by
  rcases wordEnd_isLeast gap with ⟨⟨ends, further⟩, -⟩ | ⟨nowhere, stays⟩
  · have below := lt_line_of_none_on_line Line.EndsWord foremost ends further
    exact Or.inl ⟨below, _, below, _, ends.2.inWord⟩
  · refine Or.inr ⟨stays, ?_⟩
    rintro ⟨other, below, next, word⟩
    have within : other < buffer.lineCount :=
      lt_lineCount_of_lt_lineLength word.lt_length
    obtain ⟨last, ends⟩ := word.exists_endsWord
    exact Set.eq_empty_iff_forall_notMem.mp nowhere ⟨other, last⟩
      ⟨⟨within, ends⟩, Or.inl below⟩

end End

end Buffer

end ModalEditing
