import ModalEditing.Text.Numeral

namespace ModalEditing

/-- Why a partial operation has no result. -/
inductive Fault where
  | overflow
  | underflow
  | zeroDivisor
  | outside
  /-- A text or a list with more bytes than memory can have. -/
  | oversize
  deriving DecidableEq, Repr

/-- A result, or the fault of a partial operation outside of its domain. -/
abbrev Checked := Except Fault

namespace Checked

/-!
The partial operations on numbers and lists. Inside of its domain each of them
has its result. What is left of `-` and `min` in a checked function saturates,
and has no fault.
-/

def add (m n : Nat) : Checked Nat :=
  if m + n ≤ Text.maxWord then pure (m + n) else throw .overflow

def addUpTo (m n : Nat) : Nat :=
  min (m + n) Text.maxWord

def mulUpTo (m n : Nat) : Nat :=
  min (m * n) Text.maxWord

def sub (m n : Nat) : Checked Nat :=
  if n ≤ m then pure (m - n) else throw .underflow

def rem (m n : Nat) : Checked Nat :=
  if n = 0 then throw .zeroDivisor else pure (m % n)

/-- The largest number that a signed half word holds. -/
def maxHalfWord : Nat := 2147483647

/-- One more, in a signed half word. -/
def bump (n : Nat) : Checked Nat :=
  if n < maxHalfWord then pure (n + 1) else throw .overflow

def maxBytes : Nat := 9223372036854775807

def reserve (count bytes : Nat) : Checked Unit :=
  if count * bytes ≤ maxBytes then pure () else throw .oversize

section

variable {α : Type} (items : List α)

def item (i : Nat) : Checked α :=
  match items[i]? with
  | some x => pure x
  | none => throw .outside

def slice (start stop : Nat) : Checked (List α) :=
  if start ≤ stop ∧ stop ≤ items.length then pure ((items.take stop).drop start)
  else throw .outside

def splice (start stop : Nat) (others : List α) : Checked (List α) :=
  if start ≤ stop ∧ stop ≤ items.length then
    pure (items.take start ++ others ++ items.drop stop)
  else throw .outside

def remove (i : Nat) : Checked (α × List α) := do
  return (← item items i, items.eraseIdx i)

end

def orTry {α : Type}
    (first second : Checked (Option α)) : Checked (Option α) := do
  match ← first with
  | some x => return some x
  | none => second

end Checked

end ModalEditing
