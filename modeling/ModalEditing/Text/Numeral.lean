import ModalEditing.Text.Basic

namespace ModalEditing.Text

def maxWord : Nat := 18446744073709551615

def decimal (n : Nat) : Text :=
  Nat.toDigits 10 n

def digit? (c : Char) : Option Nat :=
  if c.isDigit then some (c.toNat - '0'.toNat) else none

/-- The number written by ASCII digits, of which there is at least one. -/
def natural? (text : Text) : Option Nat :=
  if text.isEmpty then none
  else text.foldlM (fun value c => (digit? c).map (10 * value + ·)) 0

/-- A number of 64 bits, after an optional plus sign. -/
def word? (text : Text) : Option Nat :=
  let digits := if text.head? = some '+' then text.tail else text
  (natural? digits).filter (· ≤ maxWord)

@[simp] theorem natural?_nil : natural? [] = none := rfl

@[simp] theorem word?_nil : word? [] = none := rfl

end ModalEditing.Text
