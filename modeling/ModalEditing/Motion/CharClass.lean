import ModalEditing.Text.Basic
import ModalEditing.Unicode.Alphanumeric

namespace ModalEditing

open Unicode

/-- What kind of word a character belongs to. -/
inductive CharClass where
  | blank
  | word
  | punctuation
  deriving DecidableEq, Repr

def isWordChar (c : Char) : Bool :=
  isAlphanumeric c || c == '_'

namespace CharClass

def of (c : Char) : CharClass :=
  if isBlank c then blank
  else if isWordChar c then word
  else punctuation

@[simp] theorem of_eq_blank_iff (c : Char) :
    of c = blank ↔ isBlank c = true := by
  unfold of
  split <;> simp_all
  split <;> simp

end CharClass

namespace Line

/-- How many characters at the start of a line are of one class. -/
def runLength : Line → Nat
  | [] => 0
  | c :: rest =>
      (rest.takeWhile fun d => CharClass.of d = CharClass.of c).length + 1

@[simp] theorem runLength_nil : runLength [] = 0 := rfl

theorem runLength_le (line : Line) : runLength line ≤ line.length := by
  cases line with
  | nil => exact Nat.le_refl 0
  | cons c rest =>
      exact Nat.succ_le_succ (List.takeWhile_prefix _).length_le

end Line

end ModalEditing
