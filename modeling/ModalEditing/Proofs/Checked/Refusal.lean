import ModalEditing.Proofs.Checked.Buffer

namespace ModalEditing

/--
An edit that never faults, and is made just where it is allowed; else it leaves
the text alone.
-/
def Checked.MadeIff {α : Type} (edit : Checked (Option α))
    (allowed : Prop) : Prop :=
  ∃ result, edit = pure result ∧ (result.isSome = true ↔ allowed)

namespace Buffer

variable {buffer : Buffer} {p : Position} {c : Char}

open Checked

/-! Edits at places in a text and outside of it. -/

theorem isSome_deleteBefore?_iff (gap : buffer.hasGap p = true) :
    (buffer.deleteBefore? p).isSome = true ↔ p ≠ .origin := by
  obtain ⟨within, -⟩ := (hasGap_iff buffer p).mp gap
  unfold deleteBefore?
  rw [if_pos within]
  match p with
  | ⟨line, col + 1⟩ => simp [Position.origin]
  | ⟨line + 1, 0⟩ => simp [Position.origin]
  | ⟨0, 0⟩ => simp [Position.origin]

theorem tryDeleteBefore?_below (below : buffer.lineCount ≤ p.line) :
    buffer.tryDeleteBefore? p = pure none :=
  if_pos below

/--
Behind the end of a line the guard lets the edit pass, and there is no character
to remove.
-/
theorem tryDeleteBefore?_behind (within : p.line < buffer.lineCount)
    (behind : buffer.lineLength p.line < p.col) :
    buffer.tryDeleteBefore? p = throw .outside := by
  have positive : 0 < p.col := Nat.zero_lt_of_lt behind
  have missing : (buffer.lineText p.line)[p.col - 1]? = none :=
    List.getElem?_eq_none (Nat.le_sub_one_of_lt behind)
  rw [tryDeleteBefore?, if_neg (Nat.not_le_of_lt within), if_pos positive,
    sub_eq positive, pure_bind, remove, item, missing]
  rfl

theorem madeIff_tryDeleteBefore?_iff :
    MadeIff (buffer.tryDeleteBefore? p) (buffer.hasGap p = true ∧ p ≠ .origin) ↔
      ¬ (p.line < buffer.lineCount ∧ buffer.lineLength p.line < p.col) := by
  constructor
  · rintro ⟨result, answer, -⟩ ⟨within, behind⟩
    rw [tryDeleteBefore?_behind within behind] at answer
    cases answer
  · intro guarded
    by_cases within : p.line < buffer.lineCount
    · have gap : buffer.hasGap p = true :=
        (hasGap_iff buffer p).mpr ⟨within, Nat.le_of_not_lt fun behind =>
          guarded ⟨within, behind⟩⟩
      refine ⟨_, tryDeleteBefore?_eq gap, ?_⟩
      rw [isSome_deleteBefore?_iff gap, and_iff_right gap]
    · refine ⟨none, tryDeleteBefore?_below (Nat.le_of_not_lt within), ?_⟩
      simp [hasGap_iff, within]

/--
In a buffer whose lines a machine word counts, inserting a character, breaking a
line and deleting a character are refused at every place that is not one of the
text, where they leave it as it is, and made at every other. So is deleting
backwards, which is refused at the start of the text besides, unless the place
is behind the end of one of the lines: there, and nowhere else, the edit faults.
-/
theorem edits_refused_outside_iff (fits : buffer.lineCount ≤ Text.maxWord)
    (p : Position) (c : Char) :
    let gap := p.line < buffer.lineCount ∧ p.col ≤ buffer.lineLength p.line
    let char := p.line < buffer.lineCount ∧ p.col < buffer.lineLength p.line
    let behind := p.line < buffer.lineCount ∧ buffer.lineLength p.line < p.col
    MadeIff (buffer.tryInsertChar? p c) gap ∧
      MadeIff (buffer.tryBreakLine? p) gap ∧
      MadeIff (buffer.tryDeleteChar? p) char ∧
      (MadeIff (buffer.tryDeleteBefore? p) (gap ∧ p ≠ .origin) ↔ ¬ behind) ∧
      (buffer.tryDeleteBefore? p = .error .outside ↔ behind) := by
  intro gap char behind
  have gap_iff : buffer.hasGap p = true ↔ gap := hasGap_iff buffer p
  have char_iff : buffer.hasChar p = true ↔ char := hasChar_iff buffer p
  refine ⟨⟨_, tryInsertChar?_eq p c, ?_⟩, ⟨_, tryBreakLine?_eq fits p, ?_⟩,
    ⟨_, tryDeleteChar?_eq p, ?_⟩, ?_, ?_⟩
  · simp [insertChar?, gap_iff]
  · simp [breakLine?, gap_iff]
  · simp [deleteChar?, char_iff]
  · rw [← gap_iff]
    exact madeIff_tryDeleteBefore?_iff
  · refine ⟨fun faults => ?_, fun past => tryDeleteBefore?_behind past.1 past.2⟩
    refine Classical.not_not.mp fun guarded => ?_
    obtain ⟨result, answer, -⟩ := madeIff_tryDeleteBefore?_iff.mpr guarded
    rw [answer] at faults
    cases faults

/--
On the second of two lines at its end, where deleting backwards is made, and
behind it.
-/
theorem edits_refused_outside_at_line_end :
    let buffer := Buffer.ofContent "a\nbc"
    buffer.lineCount ≤ Text.maxWord ∧
      buffer.tryInsertChar? ⟨1, 3⟩ 'd' = pure none ∧
      buffer.tryDeleteChar? ⟨1, 2⟩ = pure none ∧
      (∃ result, buffer.tryDeleteBefore? ⟨1, 2⟩ = pure (some result)) ∧
      buffer.tryDeleteBefore? ⟨1, 3⟩ = .error .outside := by
  intro buffer
  have fits : buffer.lineCount ≤ Text.maxWord := by decide +kernel
  obtain ⟨⟨inserted, insertion, inserts⟩, -, -, -, faults⟩ :=
    edits_refused_outside_iff fits ⟨1, 3⟩ 'd'
  obtain ⟨-, -, ⟨deleted, deletion, deletes⟩, backwards, -⟩ :=
    edits_refused_outside_iff fits ⟨1, 2⟩ 'd'
  obtain ⟨before, answer, made⟩ := backwards.mpr (by decide +kernel)
  have inserts : inserted.isSome = false := by
    simpa using mt inserts.mp (by decide +kernel)
  have deletes : deleted.isSome = false := by
    simpa using mt deletes.mp (by decide +kernel)
  obtain ⟨result, rfl⟩ :=
    Option.isSome_iff_exists.mp (made.mpr (by decide +kernel))
  rw [Option.isSome_eq_false_iff, Option.isNone_iff_eq_none] at inserts deletes
  exact ⟨fits, inserts ▸ insertion, deletes ▸ deletion, ⟨result, answer⟩,
    faults.mpr (by decide +kernel)⟩

/--
Behind the end of the only line, which is no place of the text, deleting
backwards faults.
-/
theorem deletion_backwards_not_refused_behind_line :
    let buffer := Buffer.ofContent "ab"
    let p : Position := ⟨0, 3⟩
    ¬ (p.line < buffer.lineCount ∧ p.col ≤ buffer.lineLength p.line) ∧
      ¬ ∃ result, buffer.tryDeleteBefore? p = .ok result := by
  refine ⟨by decide +kernel, ?_⟩
  have fault :
      (Buffer.ofContent "ab").tryDeleteBefore? ⟨0, 3⟩ = .error .outside :=
    tryDeleteBefore?_behind (by decide +kernel) (by decide +kernel)
  rintro ⟨result, answer⟩
  rw [fault] at answer
  cases answer

end Buffer

end ModalEditing
