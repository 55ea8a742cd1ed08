import ModalEditing.Engine.CommandLine
import ModalEditing.Proofs.Checked.Motion
import ModalEditing.Proofs.Search.NextMatch

namespace ModalEditing

open Checked

namespace Text

/-! Looking for a pattern in a text, column by column. -/

def tryMatchesAt (text pattern : Text) (col : Nat) : Checked Bool := do
  let stop ← add col pattern.length
  return stop ≤ text.length && (text.take stop).drop col == pattern

def tryFindFrom? (text pattern : Text)
    (start : Nat) : Checked (Option Nat) := do
  if text.length < pattern.length then return none
  else
    let last ← sub text.length pattern.length
    (List.range' start (last + 1 - start)).findM? (text.tryMatchesAt pattern)

def tryFindBefore? (text pattern : Text)
    (stop : Nat) : Checked (Option Nat) := do
  if text.length < pattern.length then return none
  else
    let last ← sub text.length pattern.length
    match stop with
    | 0 => return none
    | before + 1 =>
        (List.range' 0 (min last before + 1)).reverse.findM?
          (text.tryMatchesAt pattern)

variable {text pattern : Text}

theorem tryMatchesAt_eq (nonempty : pattern ≠ []) {col : Nat}
    (fits : col + pattern.length ≤ Text.maxWord) :
    text.tryMatchesAt pattern col = pure (text.beginsAt pattern col) := by
  have gap : col + pattern.length - col = pattern.length := by omega
  unfold tryMatchesAt
  rw [add_eq fits, pure_bind, List.drop_take, gap]
  refine congrArg pure (Bool.eq_iff_iff.mpr ?_)
  rw [Bool.and_eq_true, decide_eq_true_iff, beq_iff_eq]
  constructor
  · rintro ⟨-, same⟩
    exact List.isPrefixOf_iff_prefix.mpr (List.prefix_iff_eq_take.mpr same.symm)
  · intro begins
    exact ⟨inside_of_beginsAt nonempty begins,
      (List.prefix_iff_eq_take.mp (List.isPrefixOf_iff_prefix.mp begins)).symm⟩

theorem filter_lt_range' (n m : Nat) :
    (List.range' 0 n).filter (· < m) = List.range' 0 (min n m) := by
  induction n with
  | zero => simp
  | succ n ih =>
      rw [List.range'_1_concat, List.filter_append, ih, Nat.zero_add]
      rcases Nat.lt_or_ge n m with less | more
      · have left : min n m = n := by omega
        have right : min (n + 1) m = n + 1 := by omega
        rw [left, right, List.range'_1_concat]
        simp [less]
      · have left : min n m = m := by omega
        have right : min (n + 1) m = m := by omega
        rw [left, right]
        simp [Nat.not_lt.mpr more]

theorem beginnings_of_length_lt (nonempty : pattern ≠ [])
    (long : text.length < pattern.length) : text.beginnings pattern = [] := by
  refine List.filter_eq_nil_iff.mpr fun col _ begins => ?_
  have inside := inside_of_beginsAt nonempty begins
  omega

theorem beginnings_of_length_le (nonempty : pattern ≠ [])
    (short : pattern.length ≤ text.length) :
    text.beginnings pattern =
      (List.range' 0 (text.length - pattern.length + 1)).filter
        (text.beginsAt pattern) := by
  have positive := List.length_pos_iff.mpr nonempty
  have size :
      text.length =
        text.length - pattern.length + 1 + (pattern.length - 1) := by
    omega
  have behind :
      (List.range' (0 + (text.length - pattern.length + 1))
        (pattern.length - 1)).filter (text.beginsAt pattern) = [] := by
    refine List.filter_eq_nil_iff.mpr fun col member begins => ?_
    have inside := inside_of_beginsAt nonempty begins
    obtain ⟨lower, -⟩ := List.mem_range'_1.mp member
    omega
  have columns : List.range' 0 text.length =
      List.range' 0 (text.length - pattern.length + 1) ++
        List.range' (0 + (text.length - pattern.length + 1))
          (pattern.length - 1) := by
    rw [List.range'_append_1, ← size]
  unfold beginnings
  rw [columns, List.filter_append, behind, List.append_nil]

theorem tryMatchesAt_of_le (nonempty : pattern ≠ [])
    (short : text.length ≤ maxLength) (inside : pattern.length ≤ text.length)
    {col : Nat} (before : col ≤ text.length - pattern.length) :
    text.tryMatchesAt pattern col = pure (text.beginsAt pattern col) := by
  have bound := behind_fits short
  exact tryMatchesAt_eq nonempty (by omega)

theorem tryFindFrom?_eq (nonempty : pattern ≠ [])
    (short : text.length ≤ maxLength) (start : Nat) :
    text.tryFindFrom? pattern start =
      pure ((text.beginnings pattern).find? (start ≤ ·)) := by
  unfold tryFindFrom?
  split
  · rw [beginnings_of_length_lt nonempty ‹_›]
    rfl
  · rename_i inside
    have inside := Nat.le_of_not_lt inside
    rw [sub_eq inside, pure_bind, findM?_eq (p := text.beginsAt pattern),
      beginnings_of_length_le nonempty inside]
    · refine congrArg pure (Option.ext fun col => ?_)
      simp only [List.find?_filter, List.find?_range'_eq_some,
        List.mem_range'_1, decide_eq_true_eq, Bool.not_eq_true',
        decide_eq_false_iff_not, not_and, Nat.not_le]
      constructor
      · rintro ⟨begins, ⟨lower, upper⟩, first⟩
        refine ⟨⟨begins, lower⟩, ⟨Nat.zero_le _, by omega⟩,
          fun j _ before begun => ?_⟩
        refine Nat.lt_of_not_le fun later => ?_
        simp [first j later before] at begun
      · rintro ⟨⟨begins, lower⟩, ⟨-, upper⟩, first⟩
        refine ⟨begins, ⟨lower, by omega⟩, fun j later before => ?_⟩
        refine Bool.eq_false_iff.mpr fun begun => ?_
        have less := first j (Nat.zero_le _) before begun
        omega
    · intro col member
      obtain ⟨lower, upper⟩ := List.mem_range'_1.mp member
      exact tryMatchesAt_of_le nonempty short inside (by omega)

theorem tryFindBefore?_eq (nonempty : pattern ≠ [])
    (short : text.length ≤ maxLength) (stop : Nat) :
    text.tryFindBefore? pattern stop =
      pure ((text.beginnings pattern).filter (· < stop)).getLast? := by
  unfold tryFindBefore?
  split
  · rw [beginnings_of_length_lt nonempty ‹_›]
    rfl
  · rename_i inside
    have inside := Nat.le_of_not_lt inside
    rw [sub_eq inside, pure_bind, beginnings_of_length_le nonempty inside]
    cases stop with
    | zero =>
        have none : ((List.range' 0 (text.length - pattern.length + 1)).filter
            (text.beginsAt pattern)).filter (· < 0) = [] :=
          List.filter_eq_nil_iff.mpr (by simp)
        rw [none]
        rfl
    | succ before =>
        dsimp only
        rw [findM?_eq (p := text.beginsAt pattern)]
        · have columns : min (text.length - pattern.length) before + 1 =
              min (text.length - pattern.length + 1) (before + 1) := by omega
          rw [columns, ← filter_lt_range', ← List.getLast?_filter,
            List.filter_filter, List.filter_filter]
          simp only [Bool.and_comm]
        · intro col member
          obtain ⟨-, upper⟩ := List.mem_range'_1.mp (List.mem_reverse.mp member)
          exact tryMatchesAt_of_le nonempty short inside (by omega)

end Text

namespace Buffer

def tryLinesBelow? (buffer : Buffer) (origin : Nat)
    (look : Nat → Checked (Option Nat)) : Checked (Option Position) :=
  (List.range' 1 (buffer.lineCount - 1)).findSomeM? fun step => do
    let line ← rem (← add origin step) buffer.lineCount
    return (← look line).map (Position.mk line)

def tryLinesAbove? (buffer : Buffer) (origin : Nat)
    (look : Nat → Checked (Option Nat)) : Checked (Option Position) :=
  (List.range' 1 (buffer.lineCount - 1)).findSomeM? fun step => do
    let line ← rem (← sub (← add origin buffer.lineCount) step) buffer.lineCount
    return (← look line).map (Position.mk line)

def tryFirst? (buffer : Buffer) (pattern : Text)
    (line : Nat) : Checked (Option Nat) :=
  (foldCase (buffer.lineText line)).tryFindFrom? pattern 0

def tryLast? (buffer : Buffer) (pattern : Text)
    (line : Nat) : Checked (Option Nat) := do
  let text := foldCase (buffer.lineText line)
  text.tryFindBefore? pattern (← add text.length 1)

def trySearch? (buffer : Buffer) (p : Position) (pattern : Text)
    (direction : Direction) : Checked (Option Position) := do
  let pattern := foldCase pattern
  if pattern.isEmpty then return none
  else
    let origin := min p.line (← sub buffer.lineCount 1)
    let home := foldCase (buffer.lineText origin)
    let place (col : Option Nat) : Option Position :=
      col.map (Position.mk origin)
    match direction with
    | .forward =>
        let next ← add p.col 1
        orTry (place <$> home.tryFindFrom? pattern next) <|
          orTry (buffer.tryLinesBelow? origin (buffer.tryFirst? pattern)) <|
            place <$> buffer.tryFirst? pattern origin
    | .backward =>
        orTry (place <$> home.tryFindBefore? pattern p.col) <|
          orTry (buffer.tryLinesAbove? origin (buffer.tryLast? pattern)) <|
            place <$> buffer.tryLast? pattern origin

variable {buffer : Buffer}

theorem map_step_forward {origin count : Nat} (inside : origin < count) :
    (List.range' 1 (count - 1)).map (fun step => (origin + step) % count) =
      List.range' (origin + 1) (count - (origin + 1)) ++
        List.range' 0 origin := by
  have split : count - 1 = (count - (origin + 1)) + origin := by omega
  rw [split, ← List.range'_append_1, List.map_append]
  congr 1
  · rw [← List.map_add_range']
    refine List.map_congr_left fun step member => Nat.mod_eq_of_lt ?_
    obtain ⟨lower, upper⟩ := List.mem_range'_1.mp member
    omega
  · have around : List.range' 0 origin =
        (List.range' (1 + (count - (origin + 1))) origin).map
          (· - (count - origin)) := by
      rw [List.map_sub_range' (by omega)]
      congr 1
      omega
    rw [around]
    refine List.map_congr_left fun step member => ?_
    obtain ⟨lower, upper⟩ := List.mem_range'_1.mp member
    have wraps : origin + step = step - (count - origin) + count := by omega
    rw [wraps, Nat.add_mod_right, Nat.mod_eq_of_lt (by omega)]

theorem map_step_backward {origin count : Nat} (inside : origin < count) :
    (List.range' 1 (count - 1)).map (fun step =>
        (origin + count - step) % count) =
      (List.range' 0 origin).reverse ++
        (List.range' (origin + 1) (count - (origin + 1))).reverse := by
  have split : count - 1 = origin + (count - (origin + 1)) := by omega
  rw [split, ← List.range'_append_1, List.map_append]
  congr 1
  · rw [List.reverse_range', List.range'_eq_map_range, List.map_map]
    refine List.map_congr_left fun i member => ?_
    have less := List.mem_range.mp member
    have wraps : origin + count - (1 + i) = 0 + origin - 1 - i + count := by
      omega
    rw [Function.comp_apply, wraps, Nat.add_mod_right,
      Nat.mod_eq_of_lt (by omega)]
  · rw [List.reverse_range', List.range'_eq_map_range, List.map_map]
    refine List.map_congr_left fun i member => ?_
    have less := List.mem_range.mp member
    rw [Function.comp_apply, Nat.mod_eq_of_lt (by omega)]
    omega

theorem tryLinesBelow?_eq (sized : buffer.Sized) {origin : Nat}
    (within : origin < buffer.lineCount) {look : Nat → Checked (Option Nat)}
    (find : Line → Option Nat)
    (looks : ∀ line, look line = pure (find (buffer.lineText line))) :
    buffer.tryLinesBelow? origin look =
      pure ((buffer.findFirst? (origin + 1) buffer.lineCount find).or
        (buffer.findFirst? 0 origin find)) := by
  have bound := sized.lineCount
  unfold tryLinesBelow?
  rw [findSomeM?_eq (f := fun step =>
    (find (buffer.lineText ((origin + step) % buffer.lineCount))).map
      (Position.mk ((origin + step) % buffer.lineCount)))]
  · have steps := congrArg (List.findSome? fun line =>
      (find (buffer.lineText line)).map (Position.mk line))
        (map_step_forward within)
    rw [List.findSome?_map, List.findSome?_append,
      ← findFirst?_eq_findSome? (Nat.le_refl _)] at steps
    rw [findFirst?_eq_findSome? (Nat.le_of_lt within), Nat.sub_zero]
    exact congrArg pure steps
  · intro step member
    obtain ⟨-, upper⟩ := List.mem_range'_1.mp member
    have fits : origin + step ≤ Text.maxWord := by
      simp only [maxLines, maxHalfWord, Text.maxWord] at *
      omega
    simp [add_eq fits, rem_eq (Nat.zero_lt_of_lt within), looks]

theorem tryLinesAbove?_eq (sized : buffer.Sized) {origin : Nat}
    (within : origin < buffer.lineCount) {look : Nat → Checked (Option Nat)}
    (find : Line → Option Nat)
    (looks : ∀ line, look line = pure (find (buffer.lineText line))) :
    buffer.tryLinesAbove? origin look =
      pure ((buffer.findLast? 0 origin find).or
        (buffer.findLast? (origin + 1) buffer.lineCount find)) := by
  have bound := sized.lineCount
  unfold tryLinesAbove?
  rw [findSomeM?_eq (f := fun step =>
    let line := (origin + buffer.lineCount - step) % buffer.lineCount
    (find (buffer.lineText line)).map (Position.mk line))]
  · have steps := congrArg (List.findSome? fun line =>
      (find (buffer.lineText line)).map (Position.mk line))
        (map_step_backward within)
    rw [List.findSome?_map, List.findSome?_append,
      ← findLast?_eq_findSome? (Nat.le_refl _)] at steps
    rw [findLast?_eq_findSome? (Nat.le_of_lt within), Nat.sub_zero]
    exact congrArg pure steps
  · intro step member
    obtain ⟨-, upper⟩ := List.mem_range'_1.mp member
    have fits : origin + buffer.lineCount ≤ Text.maxWord := by
      simp only [maxLines, maxHalfWord, Text.maxWord] at *
      omega
    have less : step ≤ origin + buffer.lineCount := by omega
    simp [add_eq fits, sub_eq less, rem_eq (Nat.zero_lt_of_lt within), looks]

theorem tryFindFrom?_line (sized : buffer.Sized) {pattern : Text}
    (nonempty : pattern ≠ []) (line start : Nat) :
    Text.tryFindFrom? (foldCase (buffer.lineText line)) pattern start =
      pure ((Line.matchColumns pattern (buffer.lineText line)).find?
        (start ≤ ·)) := by
  rw [Line.matchColumns_eq_beginnings]
  exact Text.tryFindFrom?_eq nonempty
    (by rw [length_foldCase]; exact sized.lineLength line) start

theorem tryFindBefore?_line (sized : buffer.Sized) {pattern : Text}
    (nonempty : pattern ≠ []) (line stop : Nat) :
    Text.tryFindBefore? (foldCase (buffer.lineText line)) pattern stop =
      pure ((Line.matchColumns pattern (buffer.lineText line)).filter
        (· < stop)).getLast? := by
  rw [Line.matchColumns_eq_beginnings]
  exact Text.tryFindBefore?_eq nonempty
    (by rw [length_foldCase]; exact sized.lineLength line) stop

theorem tryFirst?_eq (sized : buffer.Sized) {pattern : Text}
    (nonempty : pattern ≠ []) (line : Nat) :
    buffer.tryFirst? pattern line =
      pure (Line.matchColumns pattern (buffer.lineText line)).head? := by
  unfold tryFirst?
  rw [tryFindFrom?_line sized nonempty]
  cases Line.matchColumns pattern (buffer.lineText line) <;> rfl

theorem tryLast?_eq (sized : buffer.Sized) {pattern : Text}
    (nonempty : pattern ≠ []) (line : Nat) :
    buffer.tryLast? pattern line =
      pure (Line.matchColumns pattern (buffer.lineText line)).getLast? := by
  have fits : (buffer.lineText line).length + 1 ≤ Text.maxWord :=
    behind_fits (sized.lineLength line)
  have every : (Line.matchColumns pattern (buffer.lineText line)).filter
      (· < (buffer.lineText line).length + 1) =
        Line.matchColumns pattern (buffer.lineText line) :=
    List.filter_eq_self.mpr fun col member => by
      simpa using Nat.lt_succ_of_lt (Line.lt_of_mem_matchColumns member)
  unfold tryLast?
  dsimp only
  rw [length_foldCase, add_eq fits, pure_bind,
    tryFindBefore?_line sized nonempty, every]

theorem trySearch?_eq (nonempty : buffer.lines ≠ []) (sized : buffer.Sized)
    {p : Position} (short : p.col ≤ maxLength) (pattern : Text)
    (direction : Direction) :
    buffer.trySearch? p pattern direction =
      pure (buffer.search? p pattern direction) := by
  have positive := lineCount_pos nonempty
  have within : min p.line (buffer.lineCount - 1) < buffer.lineCount := by omega
  unfold trySearch? search? lastLine
  by_cases empty : pattern = []
  · simp [empty, foldCase]
  · have searched : foldCase pattern ≠ [] := by simpa [foldCase] using empty
    simp only [List.isEmpty_iff, searched, empty, if_false,
      sub_eq positive, pure_bind]
    generalize min p.line (buffer.lineCount - 1) = origin at *
    cases direction with
    | forward =>
        rw [add_eq (behind_fits short), pure_bind,
          tryFindFrom?_line sized searched,
          tryLinesBelow?_eq sized within (fun line =>
            (Line.matchColumns _ line).head?) (tryFirst?_eq sized searched),
              tryFirst?_eq sized searched]
        simp only [map_pure, orTry_pure, Option.or_assoc, searchForward?,
          Option.orElse_eq_orElse, Option.orElse_eq_or]
        rfl
    | backward =>
        rw [tryFindBefore?_line sized searched,
          tryLinesAbove?_eq sized within (fun line =>
            (Line.matchColumns _ line).getLast?) (tryLast?_eq sized searched),
              tryLast?_eq sized searched]
        simp only [map_pure, orTry_pure, Option.or_assoc, searchBackward?,
          Option.orElse_eq_orElse, Option.orElse_eq_or]

end Buffer

end ModalEditing
