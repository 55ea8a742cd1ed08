namespace ModalEditing.Unicode

/-- Closed intervals of code points. -/
abbrev Intervals := List (Nat × Nat)

def Intervals.contains (intervals : Intervals) (c : Char) : Bool :=
  intervals.any fun interval => interval.1 ≤ c.toNat && c.toNat ≤ interval.2

@[simp] theorem Intervals.contains_nil (c : Char) :
    Intervals.contains [] c = false := rfl

@[simp] theorem Intervals.contains_cons
    (interval : Nat × Nat) (rest : Intervals) (c : Char) :
    Intervals.contains (interval :: rest) c =
      (interval.1 ≤ c.toNat && c.toNat ≤ interval.2 || rest.contains c) := rfl

theorem Intervals.contains_iff (intervals : Intervals) (c : Char) :
    intervals.contains c = true ↔
      ∃ interval ∈ intervals, interval.1 ≤ c.toNat ∧ c.toNat ≤ interval.2 := by
  simp [Intervals.contains]

end ModalEditing.Unicode
