import ModalEditing.Motion.Column
import ModalEditing.Proofs.Checked.Buffer
import ModalEditing.Proofs.Motion.Walk

namespace ModalEditing

open Checked Unicode

/-!
Steps and walks, with the partial operations that go from one place to the next.
-/

/-- A way whose steps are worked out with partial operations. -/
structure CheckedWay extends Way where
  tryStep : Position → Checked (Option Position)
  agrees {p : Position} {next : Option Position} : tryStep p = .ok next →
    step p = next

namespace CheckedWay

variable {way : CheckedWay} {takes : Position → Position → Bool} {p : Position}

def tryWalk (way : CheckedWay) (takes : Position → Position → Bool)
    (p : Position) : Checked Position :=
  match _ : way.tryStep p with
  | .error fault => throw fault
  | .ok none => pure p
  | .ok (some q) => if takes p q then way.tryWalk takes q else pure p
termination_by way.left p
decreasing_by exact way.falls (way.agrees ‹_›)

theorem tryWalk_of_last (last : way.tryStep p = .ok none) :
    way.tryWalk takes p = pure p := by
  rw [tryWalk]
  split <;> simp_all

theorem tryWalk_of_next {q : Position} (next : way.tryStep p = .ok (some q)) :
    way.tryWalk takes p = if takes p q then
      way.tryWalk takes q else pure p := by
  rw [tryWalk]
  split <;> simp_all

theorem tryWalk_eq (safe : ∀ p, way.tryStep p = pure (way.step p))
    (takes : Position → Position → Bool) (p : Position) :
    way.tryWalk takes p = pure (way.walk takes p) := by
  fun_induction Way.walk way.toWay takes p with
  | case1 p last =>
      exact tryWalk_of_last ((safe p).trans (congrArg pure last))
  | case2 p q next taken ih =>
      rw [tryWalk_of_next ((safe p).trans (congrArg pure next)),
        if_pos taken, ih]
  | case3 p q next stays =>
      rw [tryWalk_of_next ((safe p).trans (congrArg pure next)), if_neg stays]

end CheckedWay

namespace Buffer

def tryNext? (buffer : Buffer) (p : Position) : Checked (Option Position) := do
  if p.col < buffer.lineLength p.line then return some ⟨p.line, ← add p.col 1⟩
  else
    let last ← buffer.tryLastLine
    if p.line < last then return some ⟨← add p.line 1, 0⟩ else return none

def tryPrevious? (buffer : Buffer) (p : Position) :
    Checked (Option Position) := do
  if 0 < p.col then return some ⟨p.line, ← sub p.col 1⟩
  else if 0 < p.line then
    let above ← sub p.line 1
    return some ⟨above, buffer.lineLength above⟩
  else return none

variable {buffer : Buffer}

theorem tryNext?_eq (nonempty : buffer.lines ≠ []) (sized : buffer.Sized)
    (p : Position) : buffer.tryNext? p = pure (buffer.next? p) := by
  unfold tryNext? next?
  split
  · rename_i inside
    have short := Nat.le_trans (Nat.le_of_lt inside) (sized.lineLength p.line)
    simp [add_eq (behind_fits short)]
  · rw [tryLastLine_eq nonempty, pure_bind]
    split
    · rename_i more
      have within := Nat.le_of_lt (lt_lastLine_iff.mp more)
      simp [add_eq (sized.below_fits (Nat.le_of_succ_le within))]
    · rfl

theorem tryPrevious?_eq (p : Position) :
    buffer.tryPrevious? p = pure (buffer.previous? p) := by
  match p with
  | ⟨line, col + 1⟩ => simp [tryPrevious?, sub_eq, previous?]
  | ⟨line + 1, 0⟩ => simp [tryPrevious?, sub_eq, previous?]
  | ⟨0, 0⟩ => rfl

theorem next?_eq_of_tryNext? {p : Position} {next : Option Position}
    (stepped : buffer.tryNext? p = .ok next) : buffer.next? p = next := by
  unfold tryNext? at stepped
  unfold next?
  split at stepped
  · rename_i inside
    obtain ⟨_, sum, same⟩ := bind_eq_ok_iff.mp stepped
    obtain ⟨-, rfl⟩ := add_eq_ok_iff.mp sum
    cases same
    exact if_pos inside
  · rename_i behind
    obtain ⟨last, difference, stepped⟩ := bind_eq_ok_iff.mp stepped
    obtain ⟨-, rfl⟩ := sub_eq_ok_iff.mp difference
    rw [if_neg behind]
    split at stepped
    · obtain ⟨_, sum, same⟩ := bind_eq_ok_iff.mp stepped
      obtain ⟨-, rfl⟩ := add_eq_ok_iff.mp sum
      cases same
      exact if_pos ‹_›
    · cases stepped
      exact if_neg ‹_›

theorem previous?_eq_of_tryPrevious? {p : Position} {next : Option Position}
    (stepped : buffer.tryPrevious? p = .ok next) : buffer.previous? p = next :=
  Except.ok.inj ((tryPrevious?_eq p).symm.trans stepped)

/-! The word motions. -/

def tryForward (buffer : Buffer) : CheckedWay where
  toWay := buffer.forward
  tryStep := buffer.tryNext?
  agrees := next?_eq_of_tryNext?

def tryBackward (buffer : Buffer) : CheckedWay where
  toWay := buffer.backward
  tryStep := buffer.tryPrevious?
  agrees := previous?_eq_of_tryPrevious?

def tryWordForward (buffer : Buffer) (start : Position) : Checked Position := do
  let behind ←
    if buffer.classAt start = .blank then pure start
    else buffer.tryForward.tryWalk (fun p _ =>
      buffer.classAt p == buffer.classAt start) start
  buffer.tryForward.tryWalk (fun p _ => buffer.passes start p) behind

def tryWordEnd (buffer : Buffer) (start : Position) : Checked Position := do
  match ← buffer.tryNext? start with
  | none => return start
  | some next =>
      let found ← buffer.tryForward.tryWalk (fun p _ =>
        buffer.classAt p == .blank) next
      if buffer.classAt found = .blank then return start
      else buffer.tryForward.tryWalk (fun _ q =>
        buffer.classAt q == buffer.classAt found) found

def tryWordBackward (buffer : Buffer)
    (start : Position) : Checked Position := do
  match ← buffer.tryPrevious? start with
  | none => return start
  | some previous =>
      let found ← buffer.tryBackward.tryWalk (fun p _ =>
        buffer.passes start p) previous
      if buffer.classAt found = .blank then return found
      else
        buffer.tryBackward.tryWalk
          (fun p q => q.line == p.line &&
            buffer.classAt q == buffer.classAt found) found

theorem tryForward_walk_eq (nonempty : buffer.lines ≠ []) (sized : buffer.Sized)
    (takes : Position → Position → Bool) (p : Position) :
    buffer.tryForward.tryWalk takes p = pure (buffer.forward.walk takes p) :=
  CheckedWay.tryWalk_eq (tryNext?_eq nonempty sized) takes p

theorem tryBackward_walk_eq (takes : Position → Position → Bool)
    (p : Position) :
    buffer.tryBackward.tryWalk takes p = pure (buffer.backward.walk takes p) :=
  CheckedWay.tryWalk_eq tryPrevious?_eq takes p

theorem tryWordForward_eq (nonempty : buffer.lines ≠ []) (sized : buffer.Sized)
    (p : Position) : buffer.tryWordForward p = pure (buffer.wordForward p) := by
  rw [wordForward_eq_walkWordForward]
  unfold tryWordForward walkWordForward
  simp only [tryForward_walk_eq nonempty sized]
  split <;> simp [*]

theorem tryWordEnd_eq (nonempty : buffer.lines ≠ []) (sized : buffer.Sized)
    (p : Position) : buffer.tryWordEnd p = pure (buffer.wordEnd p) := by
  rw [wordEnd_eq_walkWordEnd]
  unfold tryWordEnd walkWordEnd
  simp only [tryNext?_eq nonempty sized,
    tryForward_walk_eq nonempty sized, pure_bind]
  cases buffer.next? p with
  | none => rfl
  | some next =>
      dsimp only
      unfold walkToEnd walkToRunEnd
      split <;> simp [*]

theorem tryWordBackward_eq (p : Position) :
    buffer.tryWordBackward p = pure (buffer.wordBackward p) := by
  rw [wordBackward_eq_walkWordBackward]
  unfold tryWordBackward walkWordBackward walkBackFrom
  simp only [tryPrevious?_eq, tryBackward_walk_eq, pure_bind]
  cases buffer.previous? p with
  | none => rfl
  | some previous =>
      dsimp only
      unfold walkToStart walkToRunStart
      split <;> simp [*]

end Buffer

def tryRepeatMotion (step : Position → Checked Position) :
    Nat → Position → Checked Position
  | 0, p => pure p
  | count + 1, p => do
      let next ← step p
      if next = p then return p else tryRepeatMotion step count next

theorem tryRepeatMotion_eq {tryStep : Position → Checked Position}
    {step : Position → Position} (safe : ∀ p, tryStep p = pure (step p))
    (count : Nat) (p : Position) :
    tryRepeatMotion tryStep count p = pure (repeatMotion step count p) := by
  induction count generalizing p with
  | zero => rfl
  | succ count ih =>
      unfold tryRepeatMotion repeatMotion
      rw [safe, pure_bind]
      split
      · rfl
      · exact ih (step p)

namespace Line

/-! Places on a single line. -/

def tryRunEnd (text : Line) (col : Nat) : Checked Nat := do
  match text[col]? with
  | none => return col
  | some first =>
      let run ← slice text col text.length
      match run.findIdx? (CharClass.of · ≠ CharClass.of first) with
      | some offset => add col offset
      | none => return text.length

def tryFindForward? (line : Line) (col : Nat) (target : Char) (count : Nat) :
    Checked (Option Nat) := do
  let next ← add col 1
  return ((columnsOf target line).filter (next ≤ ·))[count - 1]?

def tryWordAt? (line : Line) (col : Nat) : Checked (Option Text) := do
  match (line.drop col).findIdx? isWordChar with
  | none => return none
  | some offset =>
      let found := col + offset
      let start :=
        found - ((line.take found).reverse.takeWhile isWordChar).length
      let stop := found + ((line.drop found).takeWhile isWordChar).length
      return some (← slice line start stop)

def tryQuotePair? (text : Line) (col : Nat) (quote : Char) :
    Checked (Option (Nat × Nat)) := do
  if text.isEmpty then return none
  else
    let columns := columnsOf quote text
    let last ← sub text.length 1
    let col := min col last
    let before := columns.filter (· < col)
    let here ← item text col
    let enclosing :=
      if here = quote then
        if before.length % 2 = 1 then before.getLast?.map (·, col)
        else (columns.find? (col < ·)).map (col, ·)
      else around? columns col
    return enclosing <|>
      match columns with
      | first :: second :: _ => some (first, second)
      | _ => none

theorem tryRunEnd_eq {text : Line} (short : text.length ≤ maxLength)
    (col : Nat) : text.tryRunEnd col = pure (text.runEnd col) := by
  unfold tryRunEnd runEnd
  cases found : text[col]? with
  | none =>
      rw [List.drop_eq_nil_of_le (List.getElem?_eq_none_iff.mp found)]
      rfl
  | some first =>
      obtain ⟨inside, rfl⟩ := List.getElem?_eq_some_iff.mp found
      have size : (text.drop (col + 1)).length = text.length - (col + 1) :=
        List.length_drop
      dsimp only
      rw [slice_eq (Nat.le_of_lt inside) (Nat.le_refl _), pure_bind,
        List.take_length, List.drop_eq_getElem_cons inside, runLength_cons,
        List.findIdx?_cons, if_neg (by simp)]
      cases other : (text.drop (col + 1)).findIdx?
        (CharClass.of · ≠ CharClass.of text[col]) with
      | none =>
          rw [List.findIdx?_eq_none_iff_findIdx_eq.mp other, size,
            Option.map_none]
          exact congrArg pure (by omega)
      | some n =>
          obtain ⟨less, index⟩ := List.findIdx?_eq_some_iff_findIdx_eq.mp other
          have fits : col + (n + 1) ≤ Text.maxWord :=
            Nat.le_trans (by omega) (Nat.le_of_succ_le (behind_fits short))
          rw [index, Option.map_some]
          exact add_eq fits

theorem tryFindForward?_eq {line : Line} {col : Nat} (short : col ≤ maxLength)
    (target : Char) (count : Nat) :
    line.tryFindForward? col target count =
      pure (line.findForward? col target count) := by
  unfold tryFindForward? findForward?
  rw [add_eq (behind_fits short), pure_bind]
  rfl

theorem tryWordAt?_eq (line : Line) (col : Nat) :
    line.tryWordAt? col = pure (line.wordAt? col) := by
  have skipped : (line.drop col).dropWhile (!isWordChar ·) =
      (line.drop col).drop ((line.drop col).findIdx isWordChar) := by
    simp [List.dropWhile_eq_drop_findIdx_not]
  unfold tryWordAt? wordAt?
  rw [skipped]
  cases found : (line.drop col).findIdx? isWordChar with
  | none =>
      rw [List.findIdx?_eq_none_iff_findIdx_eq.mp found, List.drop_length]
      rfl
  | some offset =>
      obtain ⟨inside, index⟩ := List.findIdx?_eq_some_iff_findIdx_eq.mp found
      have here : col + offset < line.length := by
        rw [List.length_drop] at inside
        omega
      have nonempty : line.drop (col + offset) ≠ [] :=
        mt List.drop_eq_nil_iff.mp (Nat.not_le_of_lt here)
      have back :=
        (List.takeWhile_prefix isWordChar
          (l := (line.take (col + offset)).reverse))
      have ahead :=
        (List.takeWhile_prefix isWordChar (l := line.drop (col + offset)))
      have backLength := back.length_le
      have aheadLength := ahead.length_le
      rw [List.length_reverse, List.length_take_of_le (Nat.le_of_lt here)]
        at backLength
      rw [List.length_drop] at aheadLength
      dsimp only
      rw [index, List.drop_drop, if_neg (by simpa using nonempty),
        slice_eq (by omega) (by omega),
        drop_take_add (Nat.le_of_lt here) backLength,
        ← List.prefix_iff_eq_take.mp back, ← List.prefix_iff_eq_take.mp ahead,
        List.length_drop, Nat.sub_sub_self (Nat.le_of_lt here)]
      rfl

theorem tryQuotePair?_eq (text : Line) (col : Nat) (quote : Char) :
    text.tryQuotePair? col quote = pure (text.quotePair? col quote) := by
  cases text with
  | nil => rfl
  | cons c rest =>
      have size : sub (c :: rest).length 1 = pure ((c :: rest).length - 1) :=
        sub_eq (Nat.succ_le_succ (Nat.zero_le rest.length))
      have inside : min col ((c :: rest).length - 1) < (c :: rest).length := by
        rw [List.length_cons]
        omega
      have found := List.getElem?_eq_getElem inside
      unfold tryQuotePair? quotePair?
      dsimp only
      rw [if_neg (by simp), size, pure_bind, item_eq found, pure_bind, found]
      refine congrArg pure (congrArg₂ HOrElse.hOrElse ?_ rfl)
      simp only [Option.some.injEq]

end Line

end ModalEditing
