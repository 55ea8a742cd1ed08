import Mathlib.Algebra.GroupWithZero.Nat
import ModalEditing.Key.Script

namespace ModalEditing

/-!
The grammar of key scripts. A script is read key by key, and what is written for
a key reads as this key whatever stands next to it.
-/

namespace Text

def byteLength (text : Text) : Nat :=
  (text.map Char.utf8Size).sum

@[simp] theorem byteLength_nil : byteLength [] = 0 := rfl

@[simp] theorem byteLength_cons (c : Char) (rest : Text) :
    byteLength (c :: rest) = c.utf8Size + byteLength rest := rfl

@[simp] theorem byteLength_append (first second : Text) :
    byteLength (first ++ second) = byteLength first + byteLength second := by
  simp [byteLength]

end Text

namespace KeyEvent

/--
A text spells keys one after another, each by a character or by a name in
brackets.
-/
inductive Spells : Text → List KeyEvent → Prop where
  | done : Spells [] []
  | char {c : Char} {rest : Text} {events : List KeyEvent} (plain : c ≠ '<')
      (spelled : Spells rest events) : Spells (c :: rest) (.char c :: events)
  | named {name rest : Text} {event : KeyEvent} {events : List KeyEvent}
      (closed : '>' ∉ name) (means : ScriptToken.named? name = some event)
      (spelled : Spells rest events) :
      Spells ('<' :: (name ++ '>' :: rest)) (event :: events)

/--
The keys that scripts can spell: not the control key with a closing bracket.
-/
inductive Scripted : KeyEvent → Prop where
  | char {c : Char} (plain : c ≠ '<') : Scripted (.char c)
  | ctrl {c : Char} (inside : c ≠ '>') : Scripted (.ctrl c)
  | named {name : Text} {key : Key}
      (listed : (name, key) ∈ ScriptToken.keyNames) :
      Scripted (.plain key)

end KeyEvent

namespace ScriptToken

theorem event_named_eq_ok_iff {name : Text} {event : KeyEvent} :
    (named name).event = .ok event ↔ named? name = some event := by
  simp only [ScriptToken.event]
  cases named? name with
  | none => simp
  | some other => simp

theorem mapM_event_cons_eq_ok_iff {token : ScriptToken}
    {tokens : List ScriptToken} {events : List KeyEvent} :
    (token :: tokens).mapM ScriptToken.event = .ok events ↔
      ∃ event rest, token.event = .ok event ∧
        tokens.mapM ScriptToken.event = .ok rest ∧
        events = event :: rest := by
  rw [List.mapM_cons]
  cases token.event with
  | error _ => simp [bind, Except.bind]
  | ok event =>
      cases tokens.mapM ScriptToken.event with
      | error _ => simp [bind, Except.bind]
      | ok rest => simp [bind, Except.bind, pure, Except.pure, eq_comm]

/-- The text of a script from the bracket that is open, if there is one. -/
def unread (opened : Option OpenName) (rest : Text) : Text :=
  match opened with
  | none => rest
  | some opened => '<' :: (opened.reversed.reverse ++ rest)

theorem unread_cons (opened : OpenName) (c : Char) (rest : Text) :
    unread (some { opened with reversed := c :: opened.reversed }) rest =
      unread (some opened) (c :: rest) := by
  simp [unread]

theorem spells_of_scan {opened : Option OpenName} {offset : Nat} {rest : Text}
    {events : List KeyEvent} (unclosed : ∀ name ∈ opened, '>' ∉ name.reversed)
    (read : (scan opened offset rest).mapM ScriptToken.event = .ok events) :
    KeyEvent.Spells (unread opened rest) events := by
  -- An open bracket goes with what is left to read, so that its name may grow
  -- in the induction.
  induction rest generalizing opened offset events with
  | nil =>
      cases opened with
      | none =>
          cases read
          exact .done
      | some opened =>
          obtain ⟨_, _, failed, _⟩ := mapM_event_cons_eq_ok_iff.mp read
          contradiction
  | cons c rest ih =>
      cases opened with
      | none =>
          rw [scan] at read
          split at read
          · rename_i bracket
            rw [bracket]
            apply ih _ read
            rintro _ ⟨⟩
            exact List.not_mem_nil
          · rename_i plain
            obtain ⟨_, others, single, behind, rfl⟩ :=
              mapM_event_cons_eq_ok_iff.mp read
            cases single
            apply KeyEvent.Spells.char plain
            apply ih _ behind
            rintro _ ⟨⟩
      | some opened =>
          have free := unclosed opened rfl
          rw [scan] at read
          split at read
          · rename_i bracket
            obtain ⟨event, others, single, behind, rfl⟩ :=
              mapM_event_cons_eq_ok_iff.mp read
            rw [bracket]
            apply KeyEvent.Spells.named _ (event_named_eq_ok_iff.mp single)
            · apply ih _ behind
              rintro _ ⟨⟩
            · simpa using free
          · rename_i within
            rw [← unread_cons]
            apply ih _ read
            rintro _ ⟨⟩
            simp [free, Ne.symm within]

theorem scan_name {name : Text} (closed : '>' ∉ name) (opened : OpenName)
    (offset : Nat) (rest : Text) :
    scan (some opened) offset (name ++ '>' :: rest) =
      named (opened.reversed.reverse ++ name) ::
        scan none (offset + (Text.byteLength name + 1)) rest := by
  induction name generalizing opened offset with
  | nil => simp [scan]
  | cons c name ih =>
      rw [List.mem_cons, not_or] at closed
      rw [List.cons_append, scan, if_neg (Ne.symm closed.1), ih closed.2]
      simp [Nat.add_assoc]

/--
The keys that are spelled are read first, and the rest as if it came after as
many bytes.
-/
theorem scan_append_of_spells {script : Text} {events : List KeyEvent}
    (spelled : KeyEvent.Spells script events) (offset : Nat) (rest : Text) :
    ∃ tokens, tokens.mapM ScriptToken.event = .ok events ∧
      scan none offset (script ++ rest) =
        tokens ++ scan none (offset + Text.byteLength script) rest := by
  induction spelled generalizing offset with
  | done => exact ⟨[], rfl, rfl⟩
  | @char c script events plain _ ih =>
      obtain ⟨tokens, read, scanned⟩ := ih (offset + c.utf8Size)
      refine ⟨char c :: tokens,
        mapM_event_cons_eq_ok_iff.mpr ⟨_, _, rfl, read, rfl⟩, ?_⟩
      rw [List.cons_append, scan, if_neg plain, scanned]
      simp [Nat.add_assoc]
  | @named name script event events closed means _ ih =>
      obtain ⟨tokens, read, scanned⟩ :=
        ih (offset + 1 + (Text.byteLength name + 1))
      refine ⟨named name :: tokens,
        mapM_event_cons_eq_ok_iff.mpr
          ⟨_, _, event_named_eq_ok_iff.mpr means, read, rfl⟩, ?_⟩
      have brackets : Char.utf8Size '<' = 1 ∧ Char.utf8Size '>' = 1 := by decide
      rw [List.cons_append, List.append_assoc, List.cons_append, scan,
        if_pos rfl, scan_name closed, scanned]
      simp [brackets, Nat.add_assoc]

theorem scan_of_spells {script : Text} {events : List KeyEvent}
    (spelled : KeyEvent.Spells script events) (offset : Nat) :
    (scan none offset script).mapM ScriptToken.event = .ok events := by
  obtain ⟨tokens, read, scanned⟩ := scan_append_of_spells spelled offset []
  rw [List.append_nil] at scanned
  rw [scanned]
  simpa [scan] using read

theorem scripted_of_named? {name : Text} {event : KeyEvent}
    (closed : '>' ∉ name) (means : named? name = some event) :
    event.Scripted := by
  unfold named? at means
  split at means
  · cases means
    apply KeyEvent.Scripted.ctrl
    rintro rfl
    simp at closed
  · cases means
    apply KeyEvent.Scripted.ctrl
    rintro rfl
    simp at closed
  · contradiction
  · contradiction
  · obtain ⟨key, found, rfl⟩ := Option.map_eq_some_iff.mp means
    obtain ⟨before, behind, listed, _⟩ := List.lookup_eq_some_iff.mp found
    apply KeyEvent.Scripted.named
    rw [listed]
    exact List.mem_append_right _ List.mem_cons_self

end ScriptToken

namespace KeyEvent

variable {script : Text} {events : List KeyEvent}

theorem ofScript_eq_ok_iff :
    ofScript script = .ok events ↔ Spells script events := by
  constructor
  · intro read
    refine ScriptToken.spells_of_scan ?_ read
    rintro _ ⟨⟩
  · intro spelled
    exact ScriptToken.scan_of_spells spelled 0

theorem Spells.append {next : Text} {others : List KeyEvent}
    (first : Spells script events) (second : Spells next others) :
    Spells (script ++ next) (events ++ others) := by
  induction first with
  | done => exact second
  | char plain _ ih => exact .char plain ih
  | named closed means _ ih =>
      rw [List.cons_append, List.append_assoc, List.cons_append]
      exact .named closed means ih

theorem Spells.scripted (spelled : Spells script events) :
    ∀ event ∈ events, event.Scripted := by
  induction spelled with
  | done => simp
  | char plain _ ih => exact List.forall_mem_cons.mpr ⟨.char plain, ih⟩
  | named closed means _ ih =>
      exact List.forall_mem_cons.mpr
        ⟨ScriptToken.scripted_of_named? closed means, ih⟩

theorem toScript_char {c : Char} (plain : c ≠ '<') :
    (char c).toScript = [c] := by
  have bare : (char c).modifiers.isCtrl = false := by
    simp only [char]
    split <;> rfl
  simp [toScript, bare, plain]

theorem toScript_ctrl (c : Char) :
    (ctrl c).toScript = ['<', 'C', '-', c, '>'] :=
  if_pos (show Modifiers.ctrl.isCtrl = true by decide)

theorem spells_toScript_of_listed {name : Text} {key : Key}
    (listed : (name, key) ∈ ScriptToken.keyNames) :
    Spells (plain key).toScript [plain key] := by
  have table : ∀ entry ∈ ScriptToken.keyNames,
      (ofScript (plain entry.2).toScript).toOption = some [plain entry.2] := by
    decide +kernel
  have read := table _ listed
  apply ofScript_eq_ok_iff.mp
  cases written : ofScript (plain key).toScript with
  | error _ =>
      rw [written] at read
      contradiction
  | ok events =>
      rw [written] at read
      exact congrArg Except.ok (Option.some.inj read)

theorem Scripted.spells_toScript {event : KeyEvent}
    (scripted : event.Scripted) : Spells event.toScript [event] := by
  cases scripted with
  | char plain =>
      rw [toScript_char plain]
      exact .char plain .done
  | @ctrl c inside =>
      have closed : '>' ∉ ['C', '-', c] := by simp [Ne.symm inside]
      rw [toScript_ctrl]
      exact .named closed rfl .done
  | named listed => exact spells_toScript_of_listed listed

theorem spells_script (scripted : ∀ event ∈ events, event.Scripted) :
    Spells (KeyEvent.script events) events := by
  induction events with
  | nil => exact .done
  | cons event rest ih =>
      obtain ⟨first, others⟩ := List.forall_mem_cons.mp scripted
      exact first.spells_toScript.append (ih others)

/--
Keys that were read from a script are read again from the script that is written
for them.
-/
theorem ofScript_script (read : ofScript script = .ok events) :
    ofScript (KeyEvent.script events) = .ok events := by
  have spelled := ofScript_eq_ok_iff.mp read
  exact ofScript_eq_ok_iff.mpr (spells_script spelled.scripted)

/--
Other spellings of names, a bracket and a capital with the control key, and a
closing bracket.
-/
theorem ofScript_script_of_aliases :
    let script : Text := "<C-<><c-É>É<RETURN><space><lt>C->"
    let events : List KeyEvent :=
      [.ctrl '<', .ctrl 'É', ⟨.char 'É', .shift, false⟩, .plain .enter,
        .plain (.char ' '), .plain (.char '<'), ⟨.char 'C', .shift, false⟩,
          .plain (.char '-'),
        .plain (.char '>')]
    ofScript script = .ok events ∧
      KeyEvent.script events = "<C-<><C-É>É<CR> <lt>C->" ∧
      ofScript (KeyEvent.script events) = .ok events := by
  intro script events
  have read : ofScript script = .ok events := rfl
  exact ⟨read, by decide +kernel, ofScript_script read⟩

end KeyEvent

end ModalEditing
