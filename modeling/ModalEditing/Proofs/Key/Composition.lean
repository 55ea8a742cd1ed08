import ModalEditing.Proofs.Key.Spelling

namespace ModalEditing

/-!
Key scripts that are put together, and where a script goes wrong. A script is
read key by key, so what it is read as does not depend on what follows, and an
error is behind the keys that are spelled.
-/

namespace KeyEvent

/-- A text spells keys first, and then goes wrong. -/
inductive Stops : Text → ScriptError → Prop where
  | unterminated {before rest : Text} {events : List KeyEvent}
      (spelled : Spells before events) (unclosed : '>' ∉ rest) :
      Stops (before ++ '<' :: rest) (.unterminated before.byteLength)
  | unknownKey {before name rest : Text} {events : List KeyEvent}
      (spelled : Spells before events) (closed : '>' ∉ name)
      (unknown : ScriptToken.named? name = none) :
      Stops (before ++ '<' :: (name ++ '>' :: rest)) (.unknownKey name)

end KeyEvent

def ScriptError.behind (bytes : Nat) : ScriptError → ScriptError
  | unterminated offset => unterminated (bytes + offset)
  | unknownKey name => unknownKey name

namespace ScriptToken

theorem scan_unclosed {rest : Text} (unclosed : '>' ∉ rest) (opened : OpenName)
    (offset : Nat) :
    scan (some opened) offset rest = [ScriptToken.unclosed opened.start] := by
  induction rest generalizing opened offset with
  | nil => rfl
  | cons c rest ih =>
      rw [List.mem_cons, not_or] at unclosed
      rw [scan, if_neg (Ne.symm unclosed.1), ih unclosed.2]

theorem mapM_event_append_error {first second : List ScriptToken}
    {events : List KeyEvent} {error : ScriptError}
    (read : first.mapM ScriptToken.event = .ok events)
    (stopped : second.mapM ScriptToken.event = .error error) :
    (first ++ second).mapM ScriptToken.event = .error error := by
  rw [List.mapM_append, read, stopped]
  rfl

theorem mapM_event_cons_error {token : ScriptToken} {error : ScriptError}
    (failed : token.event = .error error) (tokens : List ScriptToken) :
    (token :: tokens).mapM ScriptToken.event = .error error := by
  rw [List.mapM_cons, failed]
  rfl

end ScriptToken

namespace KeyEvent

variable {script : Text} {events : List KeyEvent} {error : ScriptError}

theorem Stops.ofScript (stops : Stops script error) :
    ofScript script = .error error := by
  cases stops with
  | @unterminated before rest events spelled unclosed =>
      obtain ⟨tokens, read, scanned⟩ :=
        ScriptToken.scan_append_of_spells spelled 0 ('<' :: rest)
      rw [KeyEvent.ofScript, scanned, ScriptToken.scan, if_pos rfl,
        ScriptToken.scan_unclosed unclosed]
      apply ScriptToken.mapM_event_append_error read
      rw [Nat.zero_add]
      exact ScriptToken.mapM_event_cons_error rfl []
  | @unknownKey before name rest events spelled closed unknown =>
      obtain ⟨tokens, read, scanned⟩ :=
        ScriptToken.scan_append_of_spells spelled 0
          ('<' :: (name ++ '>' :: rest))
      rw [KeyEvent.ofScript, scanned, ScriptToken.scan, if_pos rfl,
        ScriptToken.scan_name closed]
      apply ScriptToken.mapM_event_append_error read
      apply ScriptToken.mapM_event_cons_error
      simp [ScriptToken.event, unknown]

theorem Stops.append_left {before : Text} (stops : Stops script error)
    (spelled : Spells before events) :
    Stops (before ++ script) (error.behind before.byteLength) := by
  cases stops with
  | unterminated inner unclosed =>
      rw [ScriptError.behind, ← Text.byteLength_append, ← List.append_assoc]
      exact .unterminated (spelled.append inner) unclosed
  | unknownKey inner closed unknown =>
      rw [ScriptError.behind, ← List.append_assoc]
      exact .unknownKey (spelled.append inner) closed unknown

theorem spells_or_stops_append {before : Text} (spelled : Spells before events)
    (rest : (∃ events, Spells script events) ∨ ∃ error, Stops script error) :
    (∃ events, Spells (before ++ script) events) ∨ ∃ error,
      Stops (before ++ script) error := by
  rcases rest with ⟨others, spelledRest⟩ | ⟨error, stops⟩
  · exact Or.inl ⟨_, spelled.append spelledRest⟩
  · exact Or.inr ⟨_, stops.append_left spelled⟩

theorem spells_or_stops :
    (script : Text) →
      (∃ events, Spells script events) ∨ ∃ error, Stops script error
  | [] => Or.inl ⟨[], .done⟩
  | c :: rest => by
      by_cases bracket : c = '<'
      · subst bracket
        by_cases closed : '>' ∈ rest
        · obtain ⟨name, behind, rfl, first⟩ := List.eq_append_cons_of_mem closed
          cases means : ScriptToken.named? name with
          | none => exact Or.inr ⟨_, .unknownKey .done first means⟩
          | some event =>
              have token : Spells ('<' :: (name ++ ['>'])) [event] :=
                .named first means .done
              simpa using spells_or_stops_append token (spells_or_stops behind)
        · exact Or.inr ⟨_, .unterminated .done closed⟩
      · have single : Spells [c] [char c] := .char bracket .done
        exact spells_or_stops_append single (spells_or_stops rest)
  termination_by script => script.length
  decreasing_by all_goals grind

theorem ofScript_eq_error_iff :
    ofScript script = .error error ↔ Stops script error := by
  constructor
  · intro failed
    rcases spells_or_stops script with ⟨events, spelled⟩ | ⟨other, stops⟩
    · rw [ofScript_eq_ok_iff.mpr spelled] at failed
      contradiction
    · rw [stops.ofScript] at failed
      cases failed
      exact stops
  · exact Stops.ofScript

theorem Stops.append_right {name : Text}
    (stops : Stops script (.unknownKey name)) (rest : Text) :
    Stops (script ++ rest) (.unknownKey name) := by
  cases stops with
  | unknownKey spelled closed unknown =>
      simpa using Stops.unknownKey spelled closed unknown

theorem ofScript_append_error {next : Text}
    (read : ofScript script = .ok events)
    (failed : ofScript next = .error error) :
    ofScript (script ++ next) = .error (error.behind script.byteLength) := by
  have spelled := ofScript_eq_ok_iff.mp read
  have stops := ofScript_eq_error_iff.mp failed
  exact (stops.append_left spelled).ofScript

/--
A script may be cut between keys anywhere: each part is read as it is by itself,
and an error is told by its place in the whole. A bracket that is never closed
is found behind the keys before it.
-/
theorem ofScript_append_and_locate :
    (∀ first second events, ofScript first = .ok events →
      (∀ others, ofScript second = .ok others →
        ofScript (first ++ second) = .ok (events ++ others)) ∧
      (∀ name, ofScript second = .error (.unknownKey name) →
        ofScript (first ++ second) = .error (.unknownKey name)) ∧
      (∀ offset, ofScript second = .error (.unterminated offset) →
        ofScript (first ++ second) =
          .error (.unterminated (first.byteLength + offset)))) ∧
    (∀ first name, ofScript first = .error (.unknownKey name) →
      ∀ second, ofScript (first ++ second) = .error (.unknownKey name)) ∧
    (∀ script offset, ofScript script = .error (.unterminated offset) →
      ∃ before rest events, script = before ++ '<' :: rest ∧
        before.byteLength = offset ∧
        ofScript before = .ok events ∧ '>' ∉ rest) := by
  refine ⟨?_, ?_, ?_⟩
  · intro first second events read
    refine ⟨fun others behind => ?_, fun name failed => ?_,
      fun offset failed => ?_⟩
    · have spelled := ofScript_eq_ok_iff.mp read
      exact ofScript_eq_ok_iff.mpr
        (spelled.append (ofScript_eq_ok_iff.mp behind))
    · exact ofScript_append_error read failed
    · exact ofScript_append_error read failed
  · intro first name failed second
    exact ((ofScript_eq_error_iff.mp failed).append_right second).ofScript
  · intro script offset failed
    cases ofScript_eq_error_iff.mp failed with
    | unterminated spelled unclosed =>
        exact ⟨_, _, _, rfl, rfl, ofScript_eq_ok_iff.mpr spelled, unclosed⟩

/-- Characters of several bytes before each kind of error. -/
theorem ofScript_append_and_locate_behind_wide :
    let first : Text := "é<Esc>"
    let unknown : Text := "€<Nope>"
    let dangling : Text := "ü<C-"
    (ofScript first = .ok [.char 'é', .plain .escape] ∧
        ofScript unknown = .error (.unknownKey "Nope") ∧
        ofScript dangling = .error (.unterminated 2)) ∧
      ofScript (first ++ first) =
        .ok ([.char 'é', .plain .escape] ++ [.char 'é', .plain .escape]) ∧
      ofScript (first ++ unknown) = .error (.unknownKey "Nope") ∧
      ofScript (first ++ dangling) =
        .error (.unterminated (first.byteLength + 2)) ∧
      first.byteLength = 7 ∧
      ofScript (unknown ++ dangling) = .error (.unknownKey "Nope") ∧
      ∃ before rest events, dangling = before ++ '<' :: rest ∧
        before.byteLength = 2 ∧
        ofScript before = .ok events ∧ '>' ∉ rest := by
  intro first unknown dangling
  have read : ofScript first = .ok [.char 'é', .plain .escape] := rfl
  have named : ofScript unknown = .error (.unknownKey "Nope") := rfl
  have unclosed : ofScript dangling = .error (.unterminated 2) := rfl
  obtain ⟨append, keeps, locates⟩ := ofScript_append_and_locate
  exact ⟨⟨read, named, unclosed⟩, (append first first _ read).1 _ read,
    (append first unknown _ read).2.1 _ named,
    (append first dangling _ read).2.2 _ unclosed, by decide,
    keeps unknown _ named dangling, locates dangling 2 unclosed⟩

end KeyEvent

end ModalEditing
