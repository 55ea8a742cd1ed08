import ModalEditing.Proofs.Checked.Edit
import ModalEditing.Proofs.Checked.Search

namespace ModalEditing

open Checked

def Substitution.onLine (substitution : Substitution) (line : Line) : Line :=
  (substitution.onLine? line).getD line

namespace Engine

/-!
Searches and typed commands, with the partial operations that they are made of.
-/

def trySearchTimes (buffer : Buffer) (pattern : Text) (direction : Direction) :
    Nat → Position → Checked (Option Position)
  | 0, p => pure (some p)
  | count + 1, p => do
      match ← buffer.trySearch? p pattern direction with
      | none => return none
      | some found =>
          if found = p then return some p
          else trySearchTimes buffer pattern direction count found

def tryRepeatSearch (engine : Engine) (direction : Direction)
    (count : Nat) : Checked Engine := do
  match engine.lastSearch with
  | none => return engine.say .nothingSearched
  | some pattern =>
      match ← trySearchTimes engine.buffer pattern direction count
        engine.cursor with
      | some p => engine.tryMoveTo p
      | none => return engine.say (.notFound pattern)

def trySearchWord (engine : Engine) : Checked Engine := do
  match ← engine.currentLine.tryWordAt? engine.cursor.col with
  | some word =>
      let engine := { engine with lastSearch := some word }
      engine.tryRepeatSearch .forward 1
  | none => return engine

def trySearchTyped (engine : Engine) (typed : Text) : Checked Engine :=
  let engine :=
    if typed.isEmpty then engine else { engine with lastSearch := some typed }
  engine.tryRepeatSearch .forward 1

def tryReplaceOn (substitution : Substitution) :
    List Nat → Buffer → Nat → Checked (Buffer × Nat)
  | [], buffer, changed => pure (buffer, changed)
  | line :: rest, buffer, changed => do
      match (buffer.line? line).bind substitution.onLine? with
      | some text =>
          tryReplaceOn substitution rest (buffer.setLine line text)
            (← bump changed)
      | none => tryReplaceOn substitution rest buffer changed

def trySubstituteOn (engine : Engine) (substitution : Substitution)
    (numbers : List Nat) : Checked Engine := do
  let (buffer, changed) ← tryReplaceOn substitution numbers engine.buffer 0
  if changed = 0 then return engine.say (.notFound substitution.pattern)
  else return { engine with buffer := buffer }

def trySubstitute (engine : Engine)
    (substitution : Substitution) : Checked Engine := do
  let line := engine.cursor.line
  if substitution.allLines then
    engine.trySubstituteOn substitution (List.range' 0 engine.buffer.lineCount)
  else
    let stop ← add line 1
    engine.trySubstituteOn substitution (List.range' line (stop - line))

def tryExecute (engine : Engine) : ExCommand → Checked Engine
  | .goToLine number => engine.tryMoveTo ⟨number - 1, 0⟩
  | .substitute substitution => engine.trySubstitute substitution
  | command => pure (engine.execute command)

def tryRunCommandLine (engine : Engine) : Text → Checked Engine
  | ':' :: typed =>
      match ExCommand.ofText? typed with
      | some command => engine.tryExecute command
      | none => pure engine
  | '/' :: typed => engine.trySearchTyped typed
  | _ => pure engine

variable {engine : Engine}

theorem trySearchTimes_eq {buffer : Buffer} (nonempty : buffer.lines ≠ [])
    (sized : buffer.Sized) (pattern : Text) (direction : Direction)
    (count : Nat) {p : Position} (short : p.col ≤ maxLength) :
    trySearchTimes buffer pattern direction count p =
      pure (searchTimes buffer pattern direction count p) := by
  induction count generalizing p with
  | zero => rfl
  | succ count ih =>
      unfold trySearchTimes searchTimes
      rw [Buffer.trySearch?_eq nonempty sized short, pure_bind]
      cases search : buffer.search? p pattern direction with
      | none => rfl
      | some found =>
          obtain ⟨written, place⟩ := Buffer.matchesAt_of_search? nonempty search
          have inside := place.lt_lineLength written
          dsimp only
          split
          · rfl
          · exact ih (Nat.le_trans (Nat.le_of_lt inside)
              (sized.lineLength found.line))

theorem tryRepeatSearch_eq (nonempty : engine.buffer.lines ≠ [])
    (sized : engine.buffer.Sized) (short : engine.cursor.col ≤ maxLength)
    (direction : Direction) (count : Nat) :
    engine.tryRepeatSearch direction count =
      pure (engine.repeatSearch direction count) := by
  unfold tryRepeatSearch repeatSearch
  cases engine.lastSearch with
  | none => rfl
  | some pattern =>
      dsimp only
      rw [trySearchTimes_eq nonempty sized pattern direction count short,
        pure_bind]
      cases searchTimes engine.buffer pattern direction count engine.cursor with
      | none => rfl
      | some p => exact tryMoveTo_eq nonempty p

theorem trySearchWord_eq (nonempty : engine.buffer.lines ≠ [])
    (sized : engine.buffer.Sized) (short : engine.cursor.col ≤ maxLength) :
    engine.trySearchWord = pure engine.searchWord := by
  unfold trySearchWord searchWord
  rw [Line.tryWordAt?_eq, pure_bind]
  cases engine.currentLine.wordAt? engine.cursor.col with
  | none => rfl
  | some word => apply tryRepeatSearch_eq <;> assumption

theorem trySearchTyped_eq (nonempty : engine.buffer.lines ≠ [])
    (sized : engine.buffer.Sized) (short : engine.cursor.col ≤ maxLength)
    (typed : Text) :
    engine.trySearchTyped typed = pure (engine.searchTyped typed) := by
  unfold trySearchTyped searchTyped
  dsimp only
  split <;> apply tryRepeatSearch_eq <;> assumption

/-! Substitution, on lines that stand one below another. -/

section

variable (substitution : Substitution) (above middle below : List Line)

theorem tryReplaceOn_eq {changed : Nat}
    (few : changed + middle.length ≤ maxHalfWord) :
    tryReplaceOn substitution (List.range' above.length middle.length)
        ⟨above ++ middle ++ below⟩ changed =
      pure (⟨above ++ middle.map substitution.onLine ++ below⟩,
        changed + middle.countP (substitution.onLine? · |>.isSome)) := by
  induction middle generalizing above changed with
  | nil => simp [tryReplaceOn]
  | cons line rest ih =>
      have found :
          (Buffer.mk (above ++ line :: rest ++ below)).line? above.length =
            some line := by
        simp [Buffer.line?]
      rw [List.length_cons] at few
      rw [List.length_cons, List.range'_succ, tryReplaceOn, found,
        Option.bind_some]
      cases change : substitution.onLine? line with
      | none =>
          have fits : changed + rest.length ≤ maxHalfWord := by omega
          simpa [Substitution.onLine, change] using ih (above ++ [line]) fits
      | some text =>
          have fits : changed + 1 + rest.length ≤ maxHalfWord := by omega
          have set : (Buffer.mk (above ++ line :: rest ++ below)).setLine
                above.length text =
              ⟨above ++ [text] ++ rest ++ below⟩ := by
            rw [Buffer.setLine,
              Buffer.editLine_of_lt (by simp [Buffer.lineCount])]
            simp
          have others := ih (above ++ [text]) fits
          rw [List.length_append, List.length_singleton] at others
          dsimp only
          rw [bump_eq (by omega), pure_bind, set, others]
          simp [Substitution.onLine, change, Nat.add_assoc, Nat.add_comm]

theorem map_zipIdx_eq_map {β : Type} {lines : List Line} {start : Nat}
    {g : Line × Nat → β} {f : Line → β}
    (same : ∀ i text, i < lines.length → g (text, start + i) = f text) :
    (lines.zipIdx start).map g = lines.map f := by
  refine List.ext_getElem (by simp) fun i inside _ => ?_
  rw [List.length_map, List.length_zipIdx] at inside
  simpa using same i lines[i] inside

variable {substitution above middle below}

theorem changedLines_eq {buffer : Buffer} {line : Nat}
    (lines : buffer = ⟨above ++ middle ++ below⟩)
    (meant : ∀ number < buffer.lineCount,
      (substitution.allLines || number == line) = true ↔
        above.length ≤ number ∧ number < above.length + middle.length) :
    changedLines substitution buffer line =
      above.map (fun _ => none) ++ middle.map substitution.onLine? ++
        below.map fun _ => none := by
  subst lines
  have size : (Buffer.mk (above ++ middle ++ below)).lineCount =
      above.length + middle.length + below.length := by
    simp [Buffer.lineCount, Nat.add_assoc]
  have outside {number : Nat} (text : Line)
      (inside : number < above.length + middle.length + below.length)
      (apart : number < above.length ∨ above.length + middle.length ≤ number) :
      (if substitution.allLines || number == line then
          substitution.onLine? text else none) =
        none :=
    if_neg fun means => by
      have := (meant number (size ▸ inside)).mp means
      omega
  unfold changedLines
  simp only [List.zipIdx_append, List.map_append, Nat.zero_add,
    List.length_append]
  rw [map_zipIdx_eq_map fun i text inside =>
    outside text (by omega) (.inl (by omega)),
    map_zipIdx_eq_map fun i text inside =>
      if_pos ((meant _ (by omega)).mpr
        ⟨Nat.le_add_right _ _, Nat.add_lt_add_left inside _⟩),
    map_zipIdx_eq_map fun i text inside =>
      outside text (by omega) (.inr (by omega))]

theorem zipWith_getD_none (lines : List Line) :
    List.zipWith (fun line (change : Option Line) => change.getD line) lines
      (lines.map fun _ => none) = lines := by
  rw [List.zipWith_map_right, List.zipWith_self]
  exact List.map_id lines

theorem substitute_eq (lines : engine.buffer = ⟨above ++ middle ++ below⟩)
    (meant : ∀ number < engine.buffer.lineCount,
      (substitution.allLines || number == engine.cursor.line) = true ↔
        above.length ≤ number ∧ number < above.length + middle.length) :
    engine.substitute substitution =
      if middle.countP (substitution.onLine? · |>.isSome) = 0 then
        engine.say (.notFound substitution.pattern)
      else
        { engine with
          buffer := ⟨above ++ middle.map substitution.onLine ++ below⟩ } := by
  have changed := changedLines_eq lines meant
  have some : (changedLines substitution engine.buffer engine.cursor.line).any
        (·.isSome) = true ↔
      middle.countP (substitution.onLine? · |>.isSome) ≠ 0 := by
    rw [changed, List.any_append, List.any_append, ← Nat.pos_iff_ne_zero,
      List.countP_pos_iff]
    simp
  unfold substitute
  dsimp only
  split
  · rename_i changes
    rw [if_neg (some.mp changes), changed, lines]
    simp only
    rw [List.zipWith_append (by simp), List.zipWith_append (by simp),
      zipWith_getD_none, zipWith_getD_none, List.zipWith_map_right,
      List.zipWith_self]
    rfl
  · rename_i unchanged
    rw [if_pos (Decidable.not_not.mp (mt some.mpr unchanged))]

theorem trySubstituteOn_eq (lines : engine.buffer = ⟨above ++ middle ++ below⟩)
    (few : middle.length ≤ maxHalfWord)
    (meant : ∀ number < engine.buffer.lineCount,
      (substitution.allLines || number == engine.cursor.line) = true ↔
        above.length ≤ number ∧ number < above.length + middle.length) :
    engine.trySubstituteOn substitution
        (List.range' above.length middle.length) =
      pure (engine.substitute substitution) := by
  unfold trySubstituteOn
  rw [substitute_eq lines meant, lines,
    tryReplaceOn_eq _ _ _ _ (by omega), pure_bind]
  dsimp only
  rw [Nat.zero_add]
  split <;> rfl

theorem trySubstitute_eq (sized : engine.buffer.Sized)
    (within : engine.cursor.line < engine.buffer.lineCount)
    (substitution : Substitution) :
    engine.trySubstitute substitution =
      pure (engine.substitute substitution) := by
  unfold trySubstitute
  dsimp only
  split
  · rename_i all
    have whole : engine.buffer = ⟨[] ++ engine.buffer.lines ++ []⟩ := by simp
    refine trySubstituteOn_eq whole sized.lineCount fun number inside => ?_
    simpa [all, Buffer.lineCount] using inside
  · rename_i single
    have size := Buffer.length_take_lines within
    have around : engine.buffer =
        ⟨engine.buffer.lines.take engine.cursor.line ++ [engine.currentLine] ++
          engine.buffer.lines.drop (engine.cursor.line + 1)⟩ := by
      rw [List.append_assoc, List.singleton_append]
      exact congrArg Buffer.mk (Buffer.lines_eq_at within)
    have meant (number : Nat) :
        (substitution.allLines || number == engine.cursor.line) = true ↔
          (engine.buffer.lines.take engine.cursor.line).length ≤ number ∧
            number <
              (engine.buffer.lines.take engine.cursor.line).length + 1 := by
      rw [size]
      simp only [single, Bool.false_or, beq_iff_eq]
      omega
    have replaced :=
      trySubstituteOn_eq around (by simp [maxHalfWord]) fun number _ =>
        meant number
    rw [add_eq (sized.below_fits (Nat.le_of_lt within)), pure_bind,
      Nat.add_sub_cancel_left]
    rwa [size] at replaced

end

theorem tryExecute_eq (nonempty : engine.buffer.lines ≠ [])
    (sized : engine.buffer.Sized)
    (within : engine.cursor.line < engine.buffer.lineCount)
    (command : ExCommand) :
    engine.tryExecute command = pure (engine.execute command) := by
  cases command with
  | goToLine number => exact tryMoveTo_eq nonempty _
  | substitute substitution => exact trySubstitute_eq sized within substitution
  | _ => rfl

theorem tryRunCommandLine_eq (nonempty : engine.buffer.lines ≠ [])
    (sized : engine.buffer.Sized)
    (gap : engine.buffer.hasGap engine.cursor = true) (line : Text) :
    engine.tryRunCommandLine line = pure (engine.runCommandLine line) := by
  obtain ⟨within, inside⟩ := (Buffer.hasGap_iff _ _).mp gap
  unfold tryRunCommandLine
  split
  · rename_i typed
    rw [runCommandLine]
    cases ExCommand.ofText? typed with
    | none => rfl
    | some command => exact tryExecute_eq nonempty sized within command
  · exact trySearchTyped_eq nonempty sized
      (Nat.le_trans inside (sized.lineLength engine.cursor.line)) _
  · rw [runCommandLine] <;> assumption

end Engine

end ModalEditing
