import Mathlib.Data.List.Forall2
import ModalEditing.Proofs.Key.Composition

namespace ModalEditing.KeyEvent

/-!
What is written for keys from any host is read again as these keys, up to the
modifiers that scripts do not write. The exception is the control key with a
closing bracket: the bracket ends its name.
-/

/-- The control key with the bracket that ends a name. -/
def ClosesName (event : KeyEvent) : Prop :=
  event.key = .char '>' ∧ event.modifiers.isCtrl = true

instance (event : KeyEvent) : Decidable event.ClosesName :=
  inferInstanceAs (Decidable (_ ∧ _))

/--
A key is read again as the same key, and a character with the control key if it
had it.
-/
def ReadAgainAs (event other : KeyEvent) : Prop :=
  other.key = event.key ∧
    (event.key.isChar = true → other.modifiers.isCtrl = event.modifiers.isCtrl)

def written? (event : KeyEvent) : Option KeyEvent :=
  match event.key with
  | .unidentified => none
  | .char c =>
      if event.modifiers.isCtrl then some (.ctrl c)
      else if c = '<' then some (.plain (.char '<'))
      else some (.char c)
  | key => some (.plain key)

variable {event : KeyEvent} {events : List KeyEvent}

@[simp] theorem isCtrl_char (c : Char) : (char c).modifiers.isCtrl = false := by
  simp only [char]
  split <;> rfl

@[simp] theorem isCtrl_ctrl (c : Char) : (ctrl c).modifiers.isCtrl = true :=
  show Modifiers.ctrl.isCtrl = true by decide

@[simp] theorem isCtrl_plain (key : Key) :
    (plain key).modifiers.isCtrl = false :=
  show Modifiers.none.isCtrl = false by decide

theorem written?_char (c : Char) (modifiers : Modifiers) (prevented : Bool) :
    (KeyEvent.mk (.char c) modifiers prevented).written? =
      some (if modifiers.isCtrl then ctrl c else if c = '<' then
        plain (.char '<') else char c) := by
  simp only [written?]
  split
  · rfl
  · split <;> rfl

theorem written?_eq_none_iff :
    event.written? = none ↔ event.key = .unidentified := by
  obtain ⟨key, modifiers, prevented⟩ := event
  cases key with
  | char c => simp [written?_char]
  | _ => simp [written?]

theorem readAgainAs_of_written? {other : KeyEvent}
    (written : event.written? = some other) : event.ReadAgainAs other := by
  obtain ⟨key, modifiers, prevented⟩ := event
  cases key with
  | char c =>
      rw [written?_char] at written
      cases written
      cases held : modifiers.isCtrl with
      | true => simp [ReadAgainAs, held]
      | false =>
          by_cases bracket : c = '<'
          · simp [ReadAgainAs, held, bracket]
          · simp [ReadAgainAs, held, bracket]
  | unidentified => contradiction
  | _ =>
      cases written
      exact ⟨rfl, nofun⟩

theorem forall₂_readAgainAs (events : List KeyEvent) :
    List.Forall₂ ReadAgainAs (events.filter (·.key ≠ .unidentified))
      (events.filterMap written?) := by
  induction events with
  | nil => exact .nil
  | cons event rest ih =>
      cases written : event.written? with
      | none => simpa [written, written?_eq_none_iff.mp written] using ih
      | some other =>
          have named : event.key ≠ .unidentified := by
            rw [ne_eq, ← written?_eq_none_iff, written]
            exact Option.some_ne_none other
          simpa [written, named] using And.intro
            (readAgainAs_of_written? written) ih

theorem spells_toScript_of_not_closesName (readable : ¬ event.ClosesName) :
    Spells event.toScript event.written?.toList := by
  obtain ⟨key, modifiers, prevented⟩ := event
  cases key with
  | char c =>
      rw [written?_char, toScript]
      cases held : modifiers.isCtrl with
      | true =>
          have inside : c ≠ '>' := by
            rintro rfl
            exact readable ⟨rfl, held⟩
          simpa [toScript_ctrl] using (Scripted.ctrl inside).spells_toScript
      | false =>
          by_cases bracket : c = '<'
          · have named : Spells "<lt>" [plain (.char '<')] :=
              ofScript_eq_ok_iff.mp rfl
            simpa [bracket] using named
          · simpa [bracket] using Spells.char bracket .done
  | _ => exact ofScript_eq_ok_iff.mp rfl

theorem stops_toScript (closes : event.ClosesName) (rest : Text) :
    Stops (event.toScript ++ rest) (.unknownKey "C-") := by
  obtain ⟨key, ctrl⟩ := closes
  have written : event.toScript = ['<', 'C', '-', '>', '>'] := by
    simp [toScript, key, ctrl]
  have closed : '>' ∉ ("C-" : Text) := by decide
  have stops :
      Stops ([] ++ '<' :: ("C-" ++ '>' :: ('>' :: rest))) (.unknownKey "C-") :=
    .unknownKey .done closed rfl
  rw [written]
  exact stops

theorem spells_script_of_forall
    (readable : ∀ event ∈ events, ¬ event.ClosesName) :
    Spells (script events) (events.filterMap written?) := by
  induction events with
  | nil => exact .done
  | cons event rest ih =>
      obtain ⟨first, others⟩ := List.forall_mem_cons.mp readable
      have spelled :=
        (spells_toScript_of_not_closesName first).append (ih others)
      cases written : event.written? <;> simpa [written] using spelled

theorem stops_script_of_exists (closed : ∃ event ∈ events, event.ClosesName) :
    Stops (script events) (.unknownKey "C-") := by
  induction events with
  | nil => simp at closed
  | cons event rest ih =>
      by_cases closes : event.ClosesName
      · exact stops_toScript closes (script rest)
      · have others : ∃ event ∈ rest, event.ClosesName := by
          simpa [closes] using closed
        exact (ih others).append_left (spells_toScript_of_not_closesName closes)

/--
Keys are read again from what is written for them, those without a name left
out, exactly if none of them is the control key with a closing bracket.
Otherwise reading stops at the first such key.
-/
theorem script_read_again_iff (events : List KeyEvent) :
    ((∃ others, ofScript (script events) = .ok others ∧
        List.Forall₂ ReadAgainAs (events.filter (·.key ≠ .unidentified))
          others) ↔
      ∀ event ∈ events, ¬ event.ClosesName) ∧
    ((∃ event ∈ events, event.ClosesName) →
      ofScript (script events) = .error (.unknownKey "C-")) := by
  have stops (closed : ∃ event ∈ events, event.ClosesName) :
      ofScript (script events) = .error (.unknownKey "C-") :=
    (stops_script_of_exists closed).ofScript
  refine ⟨⟨?_, ?_⟩, stops⟩
  · rintro ⟨others, read, -⟩ event member closes
    rw [stops ⟨event, member, closes⟩] at read
    contradiction
  · intro readable
    exact ⟨events.filterMap written?,
      ofScript_eq_ok_iff.mpr (spells_script_of_forall readable),
      forall₂_readAgainAs events⟩

/--
Brackets with and without the control key, a bare modifier, and then the one
that is misread.
-/
theorem script_read_again_of_brackets :
    let events :=
      [.ctrl '<', .char '<', .plain .unidentified,
        ⟨.escape, .alt, true⟩, .char '>']
    let closing := ⟨.char '>', .union .ctrl .shift, false⟩
    (∀ event ∈ events, ¬ event.ClosesName) ∧
      (∃ event ∈ closing :: events, event.ClosesName) ∧
      (∃ others, ofScript (script events) = .ok others ∧
        List.Forall₂ ReadAgainAs (events.filter (·.key ≠ .unidentified))
          others) ∧
      ofScript (script (closing :: events)) = .error (.unknownKey "C-") := by
  intro events closing
  have readable : ∀ event ∈ events, ¬ event.ClosesName := by decide +kernel
  have closed : ∃ event ∈ closing :: events, event.ClosesName :=
    ⟨closing, List.mem_cons_self, by decide⟩
  exact ⟨readable, closed, (script_read_again_iff events).1.mpr readable,
    (script_read_again_iff (closing :: events)).2 closed⟩

/--
What is written for the control key with a closing bracket is no key script.
-/
theorem ctrl_closing_bracket_not_read :
    ¬ ∃ others, ofScript (script [.ctrl '>']) = .ok others := by
  have stopped : ofScript (script [.ctrl '>']) = .error (.unknownKey "C-") := by
    decide +kernel
  rintro ⟨others, read⟩
  rw [stopped] at read
  contradiction

end ModalEditing.KeyEvent
