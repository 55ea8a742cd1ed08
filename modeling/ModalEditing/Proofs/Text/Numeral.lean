import ModalEditing.Text.Numeral

namespace ModalEditing.Text

/-! Numbers as they are typed: a digit behind the digits of another number. -/

theorem digit?_digitChar {digit : Nat} (below : digit < 10) :
    digit? (Nat.digitChar digit) = some digit := by
  have digits :
      ∀ digit : Fin 10, digit? (Nat.digitChar digit) = some digit.val := by
    decide
  exact digits ⟨digit, below⟩

theorem decimal_of_lt {n : Nat} (below : n < 10) :
    decimal n = [Nat.digitChar n] :=
  Nat.toDigits_of_lt_base below

theorem decimal_append_digit {n digit : Nat} (positive : 1 ≤ n)
    (below : digit < 10) :
    decimal (10 * n + digit) = decimal n ++ [Nat.digitChar digit] := by
  have pushed :=
    Nat.toDigits_append_toDigits (b := 10) (by decide) positive below
  rw [Nat.toDigits_of_lt_base below] at pushed
  exact pushed.symm

theorem digit_induction {P : ∀ n, 1 ≤ n → Prop}
    (first : ∀ digit positive, digit < 10 → P digit positive)
    (push : ∀ n digit positive, digit < 10 → P n positive →
      P (10 * n + digit) (by omega))
    (n : Nat) (positive : 1 ≤ n) : P n positive := by
  induction n using Nat.strongRecOn with
  | ind n ih =>
      by_cases below : n < 10
      · exact first n positive below
      · have before : 1 ≤ n / 10 := by omega
        have pushed :=
          push (n / 10) (n % 10) before (by omega)
            (ih (n / 10) (by omega) before)
        simpa only [Nat.div_add_mod] using pushed

/-! Numbers read again from their digits. -/

theorem natural?_concat {digits : Text} {n digit : Nat}
    (value : natural? digits = some n) (below : digit < 10) :
    natural? (digits ++ [Nat.digitChar digit]) = some (10 * n + digit) := by
  unfold natural? at value ⊢
  split at value
  · contradiction
  · have read := digit?_digitChar below
    rw [if_neg (by simp), List.foldlM_append, value]
    simp [read]

theorem natural?_decimal (n : Nat) : natural? (decimal n) = some n := by
  rcases Nat.eq_zero_or_pos n with rfl | positive
  · rfl
  · induction n, positive using digit_induction with
    | first digit positive below =>
        have read := digit?_digitChar below
        rw [decimal_of_lt below]
        simp [natural?, read]
    | push n digit positive below ih =>
        rw [decimal_append_digit positive below]
        exact natural?_concat ih below

theorem isDigit_of_mem_decimal {n : Nat} {c : Char} (member : c ∈ decimal n) :
    c.isDigit = true :=
  Nat.isDigit_of_mem_toDigits (by decide) (by decide) member

theorem decimal_ne_nil (n : Nat) : decimal n ≠ [] :=
  Nat.toDigits_ne_nil

theorem word?_decimal {n : Nat} (fits : n ≤ maxWord) :
    word? (decimal n) = some n := by
  have unsigned : (decimal n).head? ≠ some '+' := fun plus =>
    Bool.false_ne_true (isDigit_of_mem_decimal (List.mem_of_mem_head? plus))
  simp [word?, unsigned, natural?_decimal, fits]

theorem le_of_word? {text : Text} {n : Nat} (read : word? text = some n) :
    n ≤ maxWord := by
  simpa using (Option.filter_eq_some_iff.mp read).2

end ModalEditing.Text
