import Mathlib.Data.List.Induction
import Mathlib.Data.Nat.Digits.Defs
import ModalEditing.Proofs.Checked.Basic
import ModalEditing.Proofs.Engine.ModePayload
import ModalEditing.Proofs.Engine.TypedCount

namespace ModalEditing

open Checked

/-!
The repeat count that digits make. It is cut off at the largest count after each
of them, which comes to the same as cutting off the whole number that they
write.
-/

def pushDigitInWords (count : Option Nat) (digit : Nat) : Nat :=
  min (addUpTo (mulUpTo (count.getD 0) 10) digit) maxCount

/--
No sum or product that a machine word does not hold is seen below the largest
count.
-/
theorem pushDigitInWords_eq (count : Option Nat) (digit : Nat) :
    pushDigitInWords count digit = pushDigit count digit := by
  have small : maxCount ≤ Text.maxWord := by decide
  unfold pushDigitInWords pushDigit
  rw [min_addUpTo small, mulUpTo]
  omega

/--
The number that a count, if there is one, and digits behind it write in decimal.
-/
def numberWritten (start : Option Nat) (digits : List Nat) : Nat :=
  start.getD 0 * 10 ^ digits.length + Nat.ofDigits 10 digits.reverse

theorem numberWritten_nil (start : Option Nat) :
    numberWritten start [] = start.getD 0 := by
  simp [numberWritten]

theorem numberWritten_concat (start : Option Nat) (digits : List Nat)
    (digit : Nat) :
    numberWritten start (digits ++ [digit]) =
      10 * numberWritten start digits + digit := by
  simp only [numberWritten, List.length_append, List.length_singleton,
    List.reverse_append, List.reverse_singleton, List.singleton_append,
    Nat.ofDigits_cons]
  rw [Nat.pow_succ]
  ring

theorem foldl_pushDigit (start : Option Nat) {digits : List Nat}
    (nonempty : digits ≠ []) :
    digits.foldl (fun count digit => some (pushDigit count digit)) start =
      some (min (numberWritten start digits) maxCount) := by
  induction digits using List.reverseRecOn with
  | nil => contradiction
  | append_singleton before digit ih =>
      rw [List.foldl_append, List.foldl_cons, List.foldl_nil,
        numberWritten_concat]
      by_cases first : before = []
      · rw [first, numberWritten_nil, List.foldl_nil]
        rfl
      · rw [ih first, pushDigit_min]

namespace Engine

variable {engine : Engine}

theorem snapshot_enter_withKeys {keys : PendingKeys}
    (held : engine.mode.keys? = some keys) (others : PendingKeys) :
    (engine.enter (engine.mode.withKeys others)).snapshot =
      { engine.snapshot with commandArea := others.display } := by
  have shown := Mode.commandArea_of_keys? (Mode.keys?_withKeys held others)
  simp [snapshot, enter, shown]

theorem snapshot_typed_decimal (bare : engine.mode.keys? = some .none) {n : Nat}
    (positive : 1 ≤ n) :
    (engine.typed (Text.decimal n)).snapshot =
      { engine.snapshot with
        commandArea := Text.decimal (min n maxCount) } := by
  rw [typed_decimal bare positive, snapshot_enter_withKeys bare]
  simp [PendingKeys.display]

/-- A key that starts a prefix, or makes it longer, shows as it was typed. -/
theorem commandArea_press_of_prefix {keys : PendingKeys}
    (pending : engine.mode.keys? = some keys) {event : KeyEvent} {c : Char}
    (key : event.key = .char c) {count : Option Nat} {held : Prefix}
    (read : engine.reading? event = some (.takenIn count (some held))) :
    (engine.press event).engine.snapshot.commandArea =
      (keys.inTime engine.now).display ++ [c] := by
  obtain ⟨starts, typed, reading⟩ :=
    exists_reading?_eq pending (reading?_bare read)
  rw [read, key] at reading
  have shown := PendingKeys.display_takenIn typed (Option.some.inj reading).symm
  rw [press_of_takenIn read, hold, snapshot_enter_withKeys pending]
  exact shown _

/--
Counts are decimal. Digits behind a count or behind none make the number that
they write, or the largest count if that is less, also when it is worked out in
machine words. So in a mode that takes a count, the digits of a number show that
number, up to the largest count, and change nothing else that can be seen.
-/
theorem typed_count_is_decimal :
    (∀ (start : Option Nat) (digits : List Nat), digits ≠ [] →
      digits.foldl (fun count digit => some (pushDigit count digit)) start =
          some (min (numberWritten start digits) maxCount) ∧
        digits.foldl (fun count digit =>
            some (pushDigitInWords count digit)) start =
          some (min (numberWritten start digits) maxCount)) ∧
      ∀ (engine : Engine) (n : Nat), engine.mode.keys? = some .none → 1 ≤ n →
        (engine.typed (Text.decimal n)).snapshot =
          { engine.snapshot with
            commandArea := Text.decimal (min n maxCount) } := by
  refine ⟨fun start digits nonempty => ?_, fun engine n bare positive => ?_⟩
  · simp only [pushDigitInWords_eq, and_self]
    exact foldl_pushDigit start nonempty
  · exact snapshot_typed_decimal bare positive

/--
Digits behind the largest machine word, and a number of six digits in visual
mode.
-/
theorem typed_count_is_decimal_past_largest :
    let engine := (ofContent "ab").run [.pressKey (.char 'v')]
    ([0, 7] ≠ [] ∧ engine.mode.keys? = some .none ∧ 1 ≤ 120340) ∧
      [0, 7].foldl (fun count digit =>
          some (pushDigitInWords count digit)) (some Text.maxWord) =
        some maxCount ∧
      (engine.typed (Text.decimal 120340)).snapshot =
        { engine.snapshot with commandArea := ['9', '9', '9', '9'] } := by
  intro engine
  have bare : engine.mode.keys? = some .none := by decide +kernel
  obtain ⟨pushed, shown⟩ := typed_count_is_decimal
  have cut := (pushed (some Text.maxWord) [0, 7] (by decide)).2
  exact ⟨⟨by decide, bare, by decide⟩, cut.trans (by decide),
    (shown engine 120340 bare (by decide)).trans (by decide +kernel)⟩

end Engine

end ModalEditing
