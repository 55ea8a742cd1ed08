namespace ModalEditing

/-- A place in a text, both numbers from zero. -/
structure Position where
  line : Nat
  col : Nat
  deriving DecidableEq, Repr

namespace Position

/-!
Positions are ordered as they are read: by line, and on one line by column.
-/

def origin : Position := ⟨0, 0⟩

instance : LT Position where
  lt first second :=
    first.line < second.line ∨ first.line = second.line ∧ first.col < second.col

instance : LE Position where
  le first second :=
    first.line < second.line ∨ first.line = second.line ∧ first.col ≤ second.col

theorem lt_def (first second : Position) :
    first < second ↔
      first.line < second.line ∨
        first.line = second.line ∧ first.col < second.col := Iff.rfl

theorem le_def (first second : Position) :
    first ≤ second ↔
      first.line < second.line ∨
        first.line = second.line ∧ first.col ≤ second.col := Iff.rfl

instance (first second : Position) : Decidable (first < second) :=
  inferInstanceAs (Decidable (_ ∨ _ ∧ _))

instance (first second : Position) : Decidable (first ≤ second) :=
  inferInstanceAs (Decidable (_ ∨ _ ∧ _))

theorem le_refl (p : Position) : p ≤ p :=
  Or.inr ⟨rfl, Nat.le_refl p.col⟩

theorem le_total (first second : Position) :
    first ≤ second ∨ second ≤ first := by
  simp only [le_def]
  omega

theorem lt_of_not_le {first second : Position} (h : ¬ first ≤ second) :
    second < first := by
  simp only [le_def, lt_def] at *
  omega

theorem not_lt {first second : Position} :
    ¬ first < second ↔ second ≤ first := by
  simp only [le_def, lt_def]
  omega

theorem eq_of_le_of_le {first second : Position} (le : first ≤ second)
    (ge : second ≤ first) : first = second := by
  obtain ⟨line, col⟩ := first
  obtain ⟨line', col'⟩ := second
  simp only [le_def] at le ge
  obtain rfl : line = line' := by omega
  obtain rfl : col = col' := by omega
  rfl

end Position

end ModalEditing
