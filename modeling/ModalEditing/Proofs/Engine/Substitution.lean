import ModalEditing.Proofs.Engine.RepeatedMotion
import ModalEditing.Proofs.ExCommand
import ModalEditing.Proofs.Text.Occurrences

namespace ModalEditing.Engine

variable {engine : Engine} {event : KeyEvent}

/-! A command line that is typed and then entered. -/

theorem press_on_command_line {line : Text}
    (opened : engine.mode = .command line)
    (bare : event.modifiers.hasCommand = false) {next : Engine}
    (runs : engine.runCommandKey? line event.key = some next) :
    (engine.press event).engine = next := by
  have unexpired : engine.expire = engine := by
    simp [expire, opened, Mode.keys?]
  simp only [press, unexpired, dispatch_command opened bare runs]

theorem typed_on_command_line {line : Text}
    (opened : engine.mode = .command line) (text : Text) :
    engine.typed text = engine.enter (.command (line ++ text)) := by
  induction text generalizing engine line with
  | nil =>
      rw [List.append_nil, ← opened]
      rfl
  | cons c text ih =>
      have runs : engine.runCommandKey? line (KeyEvent.char c).key =
          some (engine.enter (.command (line ++ [c]))) := by
        rw [KeyEvent.key_char]
        rfl
      calc engine.typed (c :: text)
          = (engine.press (.char c)).engine.typed text := rfl
        _ = (engine.enter (.command (line ++ [c]))).typed text := by
            rw [press_on_command_line opened (KeyEvent.hasCommand_char c) runs]
        _ = engine.enter (.command (line ++ c :: text)) := by
            rw [@ih (engine.enter (.command (line ++ [c]))) (line ++ [c]) rfl,
              List.append_assoc]
            rfl

theorem typed_command_line {keys : PendingKeys}
    (normal : engine.mode = .normal keys) (free : keys.waiting = none)
    (text : Text) :
    engine.typed (':' :: text) = engine.enter (.command (':' :: text)) := by
  have bare := KeyEvent.hasCommand_char ':'
  have alone : Key.StandsAlone (.char ':') := by decide
  calc engine.typed (':' :: text)
      = (engine.press (.char ':')).engine.typed text := rfl
    _ = (engine.enter (.command [':'])).typed text := by
        rw [press_of_standsAlone normal free bare alone]
        rfl
    _ = engine.enter (.command (':' :: text)) :=
        @typed_on_command_line (engine.enter (.command [':'])) [':'] rfl text

theorem pressKey_enter_on_command_line {line : Text}
    (opened : engine.mode = .command line) :
    (engine.pressKey .enter).engine =
      ((engine.enter (.normal .none)).runCommandLine line).clampCursor :=
  press_on_command_line opened (KeyEvent.hasCommand_ofKey .enter) rfl

/-! The lines that a substitution is for, and what it makes of them. -/

section Lines

variable {substitution : Substitution} {number : Nat} {line : Line}

def Means (engine : Engine) (substitution : Substitution)
    (number : Nat) : Prop :=
  substitution.allLines = true ∨ number = engine.cursor.line

def change? (engine : Engine) (substitution : Substitution) (number : Nat)
    (line : Line) : Option Line :=
  if substitution.allLines || number == engine.cursor.line then
    substitution.onLine? line else none

theorem change?_of_means (means : engine.Means substitution number)
    (line : Line) :
    engine.change? substitution number line = substitution.onLine? line := by
  refine if_pos ?_
  simpa [Means] using means

theorem change?_of_not_means (other : ¬ engine.Means substitution number)
    (line : Line) : engine.change? substitution number line = none := by
  refine if_neg ?_
  simpa [Means] using other

theorem getElem?_changedLines (engine : Engine) (substitution : Substitution)
    (number : Nat) :
    (changedLines substitution engine.buffer engine.cursor.line)[number]? =
      (engine.buffer.line? number).map
        (engine.change? substitution number) := by
  rw [changedLines, List.getElem?_map, List.getElem?_zipIdx, Option.map_map,
    Nat.zero_add]
  rfl

theorem any_changedLines_iff :
    (changedLines substitution engine.buffer engine.cursor.line).any
        (·.isSome) = true ↔
      ∃ number line, engine.buffer.line? number = some line ∧
        (engine.change? substitution number line).isSome = true := by
  rw [List.any_eq_true]
  constructor
  · rintro ⟨change, member, changes⟩
    obtain ⟨number, found⟩ := List.mem_iff_getElem?.mp member
    rw [getElem?_changedLines] at found
    obtain ⟨line, here, rfl⟩ := Option.map_eq_some_iff.mp found
    exact ⟨number, line, here, changes⟩
  · rintro ⟨number, line, here, changes⟩
    refine ⟨engine.change? substitution number line, ?_, changes⟩
    refine List.mem_iff_getElem?.mpr ⟨number, ?_⟩
    rw [getElem?_changedLines, here]
    rfl

theorem line?_substitute (engine : Engine) (substitution : Substitution)
    (number : Nat) :
    (engine.substitute substitution).buffer.line? number =
      (engine.buffer.line? number).map fun line =>
        (engine.change? substitution number line).getD line := by
  unfold substitute
  dsimp only
  split
  · rw [Buffer.line?, List.getElem?_zipWith, getElem?_changedLines]
    simp only [Buffer.line?]
    cases engine.buffer.lines[number]? <;> rfl
  · rename_i unchanged
    change engine.buffer.line? number = _
    cases here : engine.buffer.line? number with
    | none => rfl
    | some line =>
        have same : engine.change? substitution number line = none := by
          refine Option.not_isSome_iff_eq_none.mp fun changes => unchanged ?_
          exact any_changedLines_iff.mpr ⟨number, line, here, changes⟩
        rw [Option.map_some, same]
        rfl

theorem lineCount_substitute (engine : Engine) (substitution : Substitution) :
    (engine.substitute substitution).buffer.lineCount =
      engine.buffer.lineCount := by
  unfold substitute
  dsimp only
  split
  · simp [Buffer.lineCount, changedLines]
  · rfl

theorem substitute_eq_update (engine : Engine) (substitution : Substitution) :
    engine.substitute substitution =
      { engine with
        buffer := (engine.substitute substitution).buffer
        notice :=
          if (changedLines substitution engine.buffer engine.cursor.line).any
            (·.isSome) then
            engine.notice
          else .notFound substitution.pattern } := by
  unfold substitute
  dsimp only
  split <;> rfl

def Finds (engine : Engine) (substitution : Substitution) : Prop :=
  ∃ number line, engine.Means substitution number ∧
    engine.buffer.line? number = some line ∧
    substitution.pattern <:+: line

theorem any_changedLines_iff_finds (nonempty : substitution.pattern ≠ []) :
    (changedLines substitution engine.buffer engine.cursor.line).any
        (·.isSome) = true ↔
      engine.Finds substitution := by
  rw [any_changedLines_iff]
  refine exists_congr fun number => exists_congr fun line => ?_
  by_cases means : engine.Means substitution number
  · rw [change?_of_means means, Substitution.isSome_onLine?_iff nonempty,
      and_iff_right means]
  · rw [change?_of_not_means means]
    exact iff_of_false (fun changes =>
      Bool.false_ne_true changes.2) fun finds => means finds.1

/--
What a substitution leaves, with the occurrences that are met from the left
replaced.
-/
structure HasSubstituted (next engine : Engine)
    (substitution : Substitution) : Prop where
  lineCount : next.buffer.lineCount = engine.buffer.lineCount
  elsewhere : ∀ number, ¬ engine.Means substitution number →
    next.buffer.line? number = engine.buffer.line? number
  kept : ∀ number line, engine.Means substitution number →
    engine.buffer.line? number = some line → ¬ substitution.pattern <:+: line →
      next.buffer.line? number = some line
  replaced : ∀ number line, engine.Means substitution number →
    engine.buffer.line? number = some line → substitution.pattern <:+: line →
      ∃ first rest, rest ≠ [] ∧
        (∀ cut, Text.IsCut substitution.pattern line cut ↔
          cut = first :: rest) ∧
        next.buffer.line? number =
          some (first ++ substitution.replacement ++
            (if substitution.everywhere then substitution.replacement
              else substitution.pattern).intercalate rest)
  message : engine.Finds substitution →
    next.snapshot.message = engine.snapshot.message
  notFound : ¬ engine.Finds substitution →
    next.snapshot.message = "Pattern not found: " ++ substitution.pattern
  registers : next.registers = engine.registers
  lastSearch : next.lastSearch = engine.lastSearch
  mode : next.mode = .normal .none
  cursor : next.cursor =
    ⟨engine.cursor.line,
      min engine.cursor.col (next.buffer.lineLength engine.cursor.line - 1)⟩

theorem hasSubstituted_substitute (nonempty : substitution.pattern ≠ [])
    (within : engine.cursor.line < engine.buffer.lineCount) :
    (((engine.enter (.normal .none)).substitute
      substitution).clampCursor).HasSubstituted engine substitution := by
  let next := (engine.enter (.normal .none)).substitute substitution
  have line? (number : Nat) :
      next.buffer.line? number = (engine.buffer.line? number).map fun line =>
        (engine.change? substitution number line).getD line :=
    line?_substitute _ _ number
  have count : next.buffer.lineCount = engine.buffer.lineCount :=
    lineCount_substitute _ _
  have update : next = { engine with
      mode := .normal .none
      buffer := next.buffer
      notice :=
        if (changedLines substitution engine.buffer engine.cursor.line).any
          (·.isSome) then
          engine.notice
        else .notFound substitution.pattern } := substitute_eq_update _ _
  have finds := @any_changedLines_iff_finds engine substitution nonempty
  constructor
  case lineCount => exact count
  case elsewhere =>
    intro number other
    refine (line? number).trans ?_
    simp only [change?_of_not_means other, Option.getD_none, Option.map_id']
  case kept =>
    intro number line means here missing
    refine (line? number).trans ?_
    rw [here, Option.map_some, change?_of_means means,
      Substitution.onLine?_of_missing nonempty missing, Option.getD_none]
  case replaced =>
    intro number line means here found
    obtain ⟨first, rest, several, isCut⟩ := Text.exists_isCut nonempty found
    refine ⟨first, rest, several, isCut, (line? number).trans ?_⟩
    rw [here, Option.map_some, change?_of_means means,
      Substitution.onLine?_of_isCut nonempty ((isCut _).mpr rfl) several,
      Option.getD_some]
  case message =>
    intro found
    change next.notice.text = engine.notice.text
    rw [update]
    simp only [finds.mpr found, if_true]
  case notFound =>
    intro missing
    change next.notice.text = _
    rw [update]
    simp only [mt finds.mp missing]
    rfl
  case registers =>
    change next.registers = engine.registers
    rw [update]
  case lastSearch =>
    change next.lastSearch = engine.lastSearch
    rw [update]
  case mode =>
    change next.mode = .normal .none
    rw [update]
  case cursor =>
    have mode : next.mode = .normal .none := by rw [update]
    have cursor : next.cursor = engine.cursor := by rw [update]
    have inside : engine.cursor.line ≤ next.buffer.lastLine := by
      rw [Buffer.lastLine, count]
      omega
    change nearest next.buffer next.mode.kind next.cursor = _
    rw [mode, cursor, nearest, Nat.min_eq_left inside]
    rfl

end Lines

/--
A substitution that is typed on the command line replaces the occurrences on the
lines that it is for, the first one of each line or all that are met from the
left, and nothing else.
-/
theorem Reachable.typed_substitution_replaces (reachable : Reachable engine)
    {keys : PendingKeys} (normal : engine.mode = .normal keys)
    (free : keys.waiting = none) (substitution : Substitution)
    (nonempty : substitution.pattern ≠ [])
    (pattern : '/' ∉ substitution.pattern)
    (replacement : '/' ∉ substitution.replacement) :
    ((engine.typed (':' :: substitution.text)).pressKey
      .enter).engine.HasSubstituted engine substitution := by
  have read :
      ExCommand.ofText? substitution.text = some (.substitute substitution) :=
    ExCommand.ofText?_substitute ⟨nonempty, pattern, replacement⟩
  rw [typed_command_line normal free, pressKey_enter_on_command_line rfl,
    runCommandLine, read]
  exact hasSubstituted_substitute nonempty reachable.coherent.cursor.1

/--
Overlapping occurrences, with a replacement that makes new ones, after a count.
-/
theorem typed_substitution_replaces_overlapping :
    let engine := (ofContent "aaaaa\nb\nxaa").run [.pressKey (.char '3')]
    let substitution : Substitution := ⟨"aa", "a", true, true⟩
    let next :=
      ((engine.typed (':' :: substitution.text)).pressKey .enter).engine
    ((Reachable engine ∧ engine.mode = .normal ⟨some 3, none⟩) ∧
        substitution.pattern ≠ [] ∧
        '/' ∉ substitution.pattern ∧ '/' ∉ substitution.replacement) ∧
      substitution.text = "%s/aa/a/g".toList ∧
      next.buffer.lines = ["aaa".toList, "b".toList, "xa".toList] ∧
      next.HasSubstituted engine substitution := by
  intro engine substitution next
  have reachable : Reachable engine := (Reachable.ofContent _).run _
  have normal : engine.mode = .normal ⟨some 3, none⟩ := by decide +kernel
  have pattern : '/' ∉ substitution.pattern := by decide
  have replacement : '/' ∉ substitution.replacement := by decide
  exact ⟨⟨⟨reachable, normal⟩, by decide, pattern, replacement⟩, by decide,
    by decide +kernel,
    reachable.typed_substitution_replaces normal rfl substitution (by decide)
      pattern replacement⟩

end ModalEditing.Engine
