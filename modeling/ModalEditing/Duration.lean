import ModalEditing.Text.Numeral

namespace ModalEditing

/--
Nanoseconds in the longest duration, whose whole seconds are a number of 64
bits.
-/
def Duration.limit : Nat := Text.maxWord * 1000000000 + 999999999

/-- A span of time, or the time since a clock started. -/
structure Duration where
  nanoseconds : Nat
  le_limit : nanoseconds ≤ Duration.limit
  deriving DecidableEq

namespace Duration

/-- Spans that are too long count as the longest one. -/
def ofNanoseconds (n : Nat) : Duration :=
  ⟨min n limit, Nat.min_le_right n limit⟩

def zero : Duration := ofNanoseconds 0

def longest : Duration := ofNanoseconds limit

def ofMilliseconds (n : Nat) : Duration :=
  ofNanoseconds (n * 1000000)

def milliseconds (d : Duration) : Nat :=
  d.nanoseconds / 1000000

instance : Add Duration where
  add first second := ofNanoseconds (first.nanoseconds + second.nanoseconds)

instance : LE Duration where
  le first second := first.nanoseconds ≤ second.nanoseconds

instance : LT Duration where
  lt first second := first.nanoseconds < second.nanoseconds

instance (first second : Duration) : Decidable (first ≤ second) :=
  inferInstanceAs (Decidable (first.nanoseconds ≤ second.nanoseconds))

instance (first second : Duration) : Decidable (first < second) :=
  inferInstanceAs (Decidable (first.nanoseconds < second.nanoseconds))

instance : Max Duration := maxOfLe

theorem le_def (first second : Duration) :
    first ≤ second ↔ first.nanoseconds ≤ second.nanoseconds := Iff.rfl

theorem lt_def (first second : Duration) :
    first < second ↔ first.nanoseconds < second.nanoseconds := Iff.rfl

@[simp] theorem nanoseconds_ofNanoseconds (n : Nat) :
    (ofNanoseconds n).nanoseconds = min n limit := rfl

@[simp] theorem nanoseconds_zero : zero.nanoseconds = 0 := rfl

@[simp] theorem nanoseconds_add (first second : Duration) :
    (first + second).nanoseconds =
      min (first.nanoseconds + second.nanoseconds) limit := rfl

@[ext] theorem ext {first second : Duration}
    (same : first.nanoseconds = second.nanoseconds) : first = second := by
  cases first
  cases second
  cases same
  rfl

theorem le_longest (d : Duration) : d ≤ longest := by
  simpa [le_def, longest] using d.le_limit

end Duration

end ModalEditing
