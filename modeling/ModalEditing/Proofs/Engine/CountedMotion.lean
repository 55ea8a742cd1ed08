import ModalEditing.Proofs.Engine.RepeatedMotion
import ModalEditing.Proofs.Motion.WordMotions
import ModalEditing.Proofs.Search.NextMatch

namespace ModalEditing

open Unicode

/--
The motions for which a count means as many steps, in every mode with a count.
-/
def steadyKeys : List Key :=
  [.char 'h', .left, .char 'l', .right, .char 'w', .char 'b', .char 'e']

def searchKeys : List Key := [.char 'n', .char 'N']

namespace Key

theorem standsAlone_of_steady : ∀ key ∈ steadyKeys, key.StandsAlone := by
  decide

theorem standsAlone_of_search : ∀ key ∈ searchKeys, key.StandsAlone := by
  decide

end Key

namespace Line

theorem findIdx?_behind_word {rest : Line} (single : rest.length ≤ 1) :
    (rest.drop rest.wordLength).findIdx? (!isBlank ·) = none := by
  cases rest with
  | nil => rfl
  | cons c tail =>
      obtain rfl : tail = [] :=
        List.length_eq_zero_iff.mp
          (Nat.le_zero.mp (Nat.le_of_succ_le_succ single))
      cases blank : isBlank c with
      | true => simp [wordLength, blank]
      | false => simp [wordLength, blank, runLength]

end Line

namespace Buffer

variable {buffer : Buffer} {kind : ModeKind} {p q : Position} {pattern : Text}
  {direction : Direction}

/-!
Steps of the cursor that may be taken all at once. From some places, all that
the cursor can be at among them, a step leads to such a place again, and to the
same nearest one if the cursor is put to the nearest place before the step.
-/

structure Steady (buffer : Buffer) (kind : ModeKind)
    (step : Position → Position) (places : Set Position) : Prop where
  allowed : ∀ p, buffer.Allows kind p → p ∈ places
  keeps : ∀ p ∈ places, step p ∈ places
  absorbs : ∀ p ∈ places,
      Engine.nearest buffer kind (step (Engine.nearest buffer kind p)) =
    Engine.nearest buffer kind (step p)

theorem steady_of_allows {step : Position → Position}
    (keeps : ∀ p, buffer.Allows kind p → buffer.Allows kind (step p)) :
    buffer.Steady kind step {p | buffer.Allows kind p} where
  allowed _ allowed := allowed
  keeps := keeps
  absorbs _ allowed := by rw [allowed.nearest_eq]

theorem Steady.nearest_iterate {step : Position → Position}
    {places : Set Position} (steady : buffer.Steady kind step places)
    (member : p ∈ places) (n : Nat) :
    Engine.nearest buffer kind (step^[n] p) =
      (fun p => Engine.nearest buffer kind (step p))^[n]
        (Engine.nearest buffer kind p) := by
  induction n generalizing p with
  | zero => rfl
  | succ n ih =>
      rw [Function.iterate_succ_apply, Function.iterate_succ_apply,
        ih (steady.keeps p member), steady.absorbs p member]

/-! The steps of the single motions. -/

theorem IsStop.allows (stop : buffer.IsStop p) (kind : ModeKind) :
    buffer.Allows kind p := by
  refine ⟨stop.1, ?_⟩
  have inside : p.col ≤ buffer.lineLength p.line - 1 := by
    rcases stop.2 with starts | ⟨-, leftmost⟩
    · exact Nat.le_sub_one_of_lt starts.inWord.lt_length
    · rw [leftmost]
      exact Nat.zero_le _
  unfold maxCol
  split <;> omega

theorem EndsWord.allows (ends : buffer.EndsWord p) (kind : ModeKind) :
    buffer.Allows kind p :=
  allows_of_hasChar (hasChar_of_lt ends.2.inWord.lt_length) kind

theorem Allows.wordBackward (allowed : buffer.Allows kind p) :
    buffer.Allows kind (buffer.wordBackward p) := by
  rcases wordBackward_isGreatest allowed.hasGap with ⟨⟨stop, -⟩, -⟩ | ⟨-, moved⟩
  · exact stop.allows kind
  · rw [moved]
    exact allows_origin (lines_ne_nil_of_lt allowed.1) kind

theorem Allows.wordEnd (allowed : buffer.Allows kind p) :
    buffer.Allows kind (buffer.wordEnd p) := by
  obtain ⟨answer, foremost, moved⟩ := isForemost_wordEnd allowed.hasGap
  rw [moved]
  cases answer with
  | none => exact allowed
  | some q => exact foremost.1.1.allows kind

theorem wordForward_of_last (last : buffer.lineLength p.line ≤ p.col + 1) :
    buffer.wordForward p =
      (buffer.findFirst? (p.line + 1) buffer.lineCount Line.firstStart?).getD
        (buffer.endFrom p) := by
  have single : ((buffer.lineText p.line).drop p.col).length ≤ 1 := by
    rw [List.length_drop]
    exact Nat.sub_le_of_le_add (Nat.add_comm p.col 1 ▸ last)
  have none := Line.findIdx?_behind_word single
  rw [List.drop_drop] at none
  unfold wordForward
  dsimp only
  rw [none]

/-- From the end of a line the next word is the one from its last character. -/
theorem wordForward_nearest (gap : buffer.hasGap p = true) (kind : ModeKind) :
    buffer.wordForward (Engine.nearest buffer kind p) =
      buffer.wordForward p := by
  by_cases allowed : buffer.Allows kind p
  · rw [allowed.nearest_eq]
  · obtain ⟨within, inside⟩ := (hasGap_iff buffer p).mp gap
    -- A mode may allow any place but the one behind the last character of a
    -- line.
    have beyond : ¬ p.col ≤ buffer.maxCol p.line (kind == .insert) :=
      fun fits =>
      allowed ⟨within, fits⟩
    have outside : (kind == .insert) = false := by
      refine Bool.eq_false_iff.mpr fun inserts => beyond ?_
      rwa [maxCol, if_pos inserts]
    have behind : p.col = buffer.lineLength p.line := by
      rw [outside] at beyond
      simp only [maxCol, Bool.false_eq_true, if_false] at beyond
      omega
    have line : min p.line buffer.lastLine = p.line :=
      Nat.min_eq_left (Nat.le_sub_one_of_lt within)
    have last :
        Engine.nearest buffer kind p =
          ⟨p.line, buffer.lineLength p.line - 1⟩ := by
      simp [Engine.nearest, line, outside, maxCol, behind]
    rw [last, wordForward_of_last (by dsimp only; omega),
      wordForward_of_last (by omega), endFrom_eq gap, endFrom_eq]
    refine (hasGap_iff _ _).mpr ⟨within, Nat.sub_le _ _⟩

theorem steady_wordForward (buffer : Buffer) (kind : ModeKind) :
    buffer.Steady kind buffer.wordForward {p | buffer.hasGap p = true} where
  allowed _ allowed := allowed.hasGap
  keeps _ gap := hasGap_wordForward gap
  absorbs _ gap := by rw [wordForward_nearest gap kind]

theorem steady_left (buffer : Buffer) (kind : ModeKind) :
    buffer.Steady kind (fun p =>
      ⟨p.line, p.col - 1⟩) {p | buffer.Allows kind p} :=
  steady_of_allows fun p allowed =>
    ⟨allowed.1, Nat.le_trans (Nat.sub_le p.col 1) allowed.2⟩

theorem steady_right (buffer : Buffer) (kind : ModeKind) :
    buffer.Steady kind (fun p => ⟨p.line, p.col + 1⟩) Set.univ where
  allowed _ _ := trivial
  keeps _ _ := trivial
  absorbs p _ := by
    simp only [Engine.nearest, Nat.min_assoc, Nat.min_self,
      Position.mk.injEq, true_and]
    omega

theorem iterate_left (n : Nat) (p : Position) :
    (fun p : Position => (⟨p.line, p.col - 1⟩ : Position))^[n] p =
      ⟨p.line, p.col - n⟩ := by
  induction n with
  | zero => rfl
  | succ n ih =>
      rw [Function.iterate_succ_apply', ih]
      rfl

theorem iterate_right (n : Nat) (p : Position) :
    (fun p : Position => (⟨p.line, p.col + 1⟩ : Position))^[n] p =
      ⟨p.line, p.col + n⟩ := by
  induction n with
  | zero => rfl
  | succ n ih =>
      rw [Function.iterate_succ_apply', ih]
      rfl

/-! Steps from match to match. -/

/-- The next match, or the place itself if there is none. -/
def searchStep (buffer : Buffer) (pattern : Text) (direction : Direction)
    (p : Position) : Position :=
  (buffer.search? p pattern direction).getD p

theorem allows_of_search? (nonempty : buffer.lines ≠ [])
    (found : buffer.search? p pattern direction = some q) (kind : ModeKind) :
    buffer.Allows kind q := by
  obtain ⟨some, here⟩ := matchesAt_of_search? nonempty found
  exact allows_of_hasChar (hasChar_of_lt (here.lt_lineLength some)) kind

theorem steady_searchStep (buffer : Buffer) (kind : ModeKind) (pattern : Text)
    (direction : Direction) :
    buffer.Steady kind (buffer.searchStep pattern direction)
      {p | buffer.Allows kind p} := by
  refine steady_of_allows fun p allowed => ?_
  unfold searchStep
  cases found : buffer.search? p pattern direction with
  | none => exact allowed
  | some q => exact allows_of_search? (lines_ne_nil_of_lt allowed.1) found kind

theorem exists_search?_eq_some (within : p.line < buffer.lineCount)
    (found : buffer.search? p pattern direction = some q) {other : Position}
    (inside : other.line < buffer.lineCount) :
    ∃ next, buffer.search? other pattern direction = some next := by
  obtain ⟨nonempty, here⟩ :=
    matchesAt_of_search? (lines_ne_nil_of_lt within) found
  refine Option.ne_none_iff_exists'.mp fun missing => ?_
  have none := (search?_eq_none_iff inside nonempty).mp missing
  exact Set.eq_empty_iff_forall_notMem.mp none q here

theorem searchTimes_eq_iterate (within : p.line < buffer.lineCount)
    (found : buffer.search? p pattern direction = some q) (count : Nat) :
    Engine.searchTimes buffer pattern direction count p =
      some ((buffer.searchStep pattern direction)^[count] p) := by
  induction count generalizing p q with
  | zero => rfl
  | succ count ih =>
      have step : buffer.searchStep pattern direction p = q := by
        rw [searchStep, found, Option.getD_some]
      have inside : q.line < buffer.lineCount :=
        (allows_of_search? (lines_ne_nil_of_lt within) found .normal).1
      obtain ⟨next, again⟩ := exists_search?_eq_some within found inside
      rw [Engine.searchTimes, found, Function.iterate_succ_apply, step]
      dsimp only
      split
      · rename_i fixed
        rw [fixed] at step ⊢
        rw [Function.iterate_fixed step]
      · exact ih inside again

end Buffer

namespace Engine

variable {engine : Engine} {event : KeyEvent} {direction : Direction}

/-! Counts before motions and before searches. -/

theorem exists_steady {key : Key} (member : key ∈ steadyKeys) (buffer : Buffer)
    (kind : ModeKind) :
    ∃ step places, buffer.Steady kind step places ∧
      ∀ engine : Engine, engine.buffer = buffer → ∀ count,
        engine.target? key count = some (step^[count] engine.cursor) := by
  simp only [steadyKeys, List.mem_cons, List.not_mem_nil, or_false] at member
  rcases member with rfl | rfl | rfl | rfl | rfl | rfl | rfl
  · refine ⟨_, _, buffer.steady_left kind, fun engine _ count => ?_⟩
    rw [Buffer.iterate_left]
    rfl
  · refine ⟨_, _, buffer.steady_left kind, fun engine _ count => ?_⟩
    rw [Buffer.iterate_left]
    rfl
  · refine ⟨_, _, buffer.steady_right kind, fun engine _ count => ?_⟩
    rw [Buffer.iterate_right]
    rfl
  · refine ⟨_, _, buffer.steady_right kind, fun engine _ count => ?_⟩
    rw [Buffer.iterate_right]
    rfl
  · refine ⟨_, _, buffer.steady_wordForward kind, ?_⟩
    rintro engine rfl count
    rw [← repeatMotion_eq_iterate]
    rfl
  · refine ⟨_, _, Buffer.steady_of_allows fun p =>
      Buffer.Allows.wordBackward, ?_⟩
    rintro engine rfl count
    rw [← repeatMotion_eq_iterate]
    rfl
  · refine ⟨_, _, Buffer.steady_of_allows fun p => Buffer.Allows.wordEnd, ?_⟩
    rintro engine rfl count
    rw [← repeatMotion_eq_iterate]
    rfl

theorem exists_search {key : Key} (member : key ∈ searchKeys) :
    ∃ direction, ∀ (engine : Engine) count,
      engine.runNormalKey? key count =
        some (engine.repeatSearch direction count) := by
  simp only [searchKeys, List.mem_cons, List.not_mem_nil, or_false] at member
  rcases member with rfl | rfl
  · exact ⟨.forward, fun _ _ => rfl⟩
  · exact ⟨.backward, fun _ _ => rfl⟩

theorem press_counted_of_steadyKeys (coherent : engine.Coherent)
    (bare : engine.mode.keys? = some .none) {n : Nat} (positive : 1 ≤ n)
    (limited : n ≤ maxCount) (unmodified : event.modifiers.hasCommand = false)
    (member : event.key ∈ steadyKeys) :
    ((engine.typed (Text.decimal n)).press event).engine =
      (engine.pressAll (List.replicate n event)).engine := by
  have alone := Key.standsAlone_of_steady _ member
  obtain ⟨step, places, steady, goes⟩ :=
    exists_steady member engine.buffer engine.mode.kind
  have counted :=
    press_of_counted_target bare positive limited unmodified alone
      (goes engine rfl n)
  have repeated :=
    engine_pressAll_of_target coherent.cursor bare unmodified alone
      (fun other same => goes other same 1) positive
  have way := steady.nearest_iterate (steady.allowed _ coherent.cursor) n
  rw [coherent.cursor.nearest_eq] at way
  rw [counted, ← moveTo_nearest, way]
  exact repeated.symm

theorem repeatSearch_of_found
    (within : engine.cursor.line < engine.buffer.lineCount) {pattern : Text}
    (last : engine.lastSearch = some pattern) {q : Position}
    (found : engine.buffer.search? engine.cursor pattern direction = some q)
    (count : Nat) :
    engine.repeatSearch direction count =
      engine.moveTo ((engine.buffer.searchStep pattern direction)^[count]
        engine.cursor) := by
  simp only [repeatSearch, last, Buffer.searchTimes_eq_iterate within found]

theorem exists_repeatSearch_eq_say
    (missing : ∀ pattern ∈ engine.lastSearch,
      engine.buffer.search? engine.cursor pattern direction = none) :
    ∃ notice, ∀ other : Engine, other.buffer = engine.buffer →
      other.cursor = engine.cursor →
      other.lastSearch = engine.lastSearch → ∀ count, 1 ≤ count →
        other.repeatSearch direction count = other.say notice := by
  cases last : engine.lastSearch with
  | none =>
      refine ⟨.nothingSearched, fun other _ _ same count _ => ?_⟩
      simp only [repeatSearch, same]
  | some pattern =>
      have missing := missing pattern last
      refine ⟨.notFound pattern,
        fun other buffer cursor same count positive => ?_⟩
      obtain ⟨count, rfl⟩ := Nat.exists_eq_add_of_le' positive
      simp only [repeatSearch, same, buffer, cursor, searchTimes, missing]

theorem press_of_search {keys : PendingKeys}
    (normal : engine.mode = .normal keys) (free : keys.waiting = none)
    (unmodified : event.modifiers.hasCommand = false)
    (alone : event.key.StandsAlone)
    (runs : ∀ (other : Engine) count,
      other.runNormalKey? event.key count =
        some (other.repeatSearch direction count)) :
    (engine.press event).engine =
      (engine.enter (.normal .none)).repeatSearch direction
        (keys.count.getD 1) := by
  rw [press_of_standsAlone normal free unmodified alone, runs, Option.getD_some]

section Searching

variable (normal : engine.mode = .normal .none)
  (unmodified : event.modifiers.hasCommand = false)
  (alone : event.key.StandsAlone) (runs : ∀ (other : Engine) count,
    other.runNormalKey? event.key count =
      some (other.repeatSearch direction count))

include normal unmodified alone runs

theorem press_of_bare_search :
    (engine.press event).engine = engine.repeatSearch direction 1 := by
  rw [press_of_search normal rfl unmodified alone runs, enter_normal normal]
  rfl

theorem press_of_counted_search {n : Nat} (positive : 1 ≤ n)
    (limited : n ≤ maxCount) :
    ((engine.typed (Text.decimal n)).press event).engine =
      engine.repeatSearch direction n := by
  rw [typed_count normal positive limited,
    press_of_search rfl rfl unmodified alone runs]
  exact congrArg (repeatSearch · direction n) (enter_normal normal)

theorem engine_pressAll_of_missing
    (missing : ∀ pattern ∈ engine.lastSearch,
      engine.buffer.search? engine.cursor pattern direction = none)
    {n : Nat} (positive : 1 ≤ n) :
    (engine.pressAll (List.replicate n event)).engine =
      engine.repeatSearch direction n := by
  obtain ⟨notice, fails⟩ := exists_repeatSearch_eq_say missing
  have first : (engine.press event).engine = engine.say notice := by
    rw [press_of_bare_search normal unmodified alone runs,
      fails engine rfl rfl rfl 1 (Nat.le_refl 1)]
  have again :
      ((engine.say notice).press event).engine = engine.say notice := by
    have normal : (engine.say notice).mode = .normal .none := normal
    rw [press_of_bare_search normal unmodified alone runs,
      fails (engine.say notice) rfl rfl rfl 1 (Nat.le_refl 1)]
    rfl
  rw [fails engine rfl rfl rfl n positive]
  obtain ⟨n, rfl⟩ := Nat.exists_eq_add_of_le' positive
  rw [engine_pressAll_replicate, Function.iterate_succ_apply, first,
    Function.iterate_fixed again]

theorem engine_pressAll_of_found (coherent : engine.Coherent) {pattern : Text}
    (last : engine.lastSearch = some pattern) {q : Position}
    (found : engine.buffer.search? engine.cursor pattern direction = some q)
    {n : Nat} (positive : 1 ≤ n) :
    (engine.pressAll (List.replicate n event)).engine =
      engine.repeatSearch direction n := by
  have within := coherent.cursor.1
  let step := engine.buffer.searchStep pattern direction
  have first :
      (engine.press event).engine = engine.moveTo (step engine.cursor) := by
    rw [press_of_bare_search normal unmodified alone runs]
    exact repeatSearch_of_found within last found 1
  have next (p : Position) : ((engine.moveTo p).press event).engine =
      (engine.moveTo p).moveTo (step (engine.moveTo p).cursor) := by
    have inside := (coherent.moveTo p).cursor.1
    have normal : (engine.moveTo p).mode = .normal .none := by
      simp only [moveTo, normal, follow]
    obtain ⟨next, again⟩ := Buffer.exists_search?_eq_some within found inside
    rw [press_of_bare_search normal unmodified alone runs]
    exact repeatSearch_of_found inside last again 1
  have steady :=
    engine.buffer.steady_searchStep engine.mode.kind pattern direction
  have way := steady.nearest_iterate coherent.cursor n
  rw [coherent.cursor.nearest_eq] at way
  rw [repeatSearch_of_found within last found, ← moveTo_nearest, way]
  exact engine_pressAll_of_steps coherent.cursor first next positive

theorem press_counted_of_search (coherent : engine.Coherent) {n : Nat}
    (positive : 1 ≤ n) (limited : n ≤ maxCount) :
    ((engine.typed (Text.decimal n)).press event).engine =
      (engine.pressAll (List.replicate n event)).engine := by
  rw [press_of_counted_search normal unmodified alone runs positive limited]
  cases last : engine.lastSearch with
  | none =>
      refine (engine_pressAll_of_missing normal unmodified alone runs ?_
        positive).symm
      simp [last]
  | some pattern =>
      cases found : engine.buffer.search? engine.cursor pattern direction with
      | none =>
          refine (engine_pressAll_of_missing normal unmodified alone runs ?_
            positive).symm
          simp [last, found]
      | some q =>
          exact (engine_pressAll_of_found normal unmodified alone runs coherent
            last found positive).symm

end Searching

/--
A count before a motion or a search is as many presses of its key. The cursor
may go behind the last word on the way, and is put back there only at the end.
-/
theorem Reachable.counted_motion_eq_repeated (reachable : Reachable engine)
    (bare : engine.mode.keys? = some .none) {n : Nat} (positive : 1 ≤ n)
    (limited : n ≤ maxCount) (unmodified : event.modifiers.hasCommand = false)
    (motion : event.key ∈ steadyKeys ∨
      engine.mode.kind = .normal ∧ event.key ∈ searchKeys) :
    ((engine.typed (Text.decimal n)).press event).engine.snapshot =
      (engine.pressAll (List.replicate n event)).engine.snapshot := by
  have coherent := reachable.coherent
  rcases motion with steady | ⟨normal, search⟩
  · rw [press_counted_of_steadyKeys coherent bare positive limited
      unmodified steady]
  · have mode : engine.mode = .normal .none := by
      obtain mode | ⟨selection, mode⟩ := Mode.normal_or_visual_of_keys? bare
      · exact mode
      · rw [mode] at normal
        contradiction
    obtain ⟨direction, runs⟩ := exists_search search
    have alone := Key.standsAlone_of_search _ search
    rw [press_counted_of_search mode unmodified alone runs coherent
      positive limited]

/--
Words in visual mode beyond the end of the text, and searches backward around
its start.
-/
theorem counted_motion_eq_repeated_past_ends :
    let selecting := (ofContent "ab, c\n\n d ").run [.pressKey (.char 'v')]
    let searching := (ofContent "ab\nAb").run [.typeScript "/aB<CR>"]
    let word : KeyEvent := .char 'w'
    let back : KeyEvent := .char 'N'
    ((Reachable selecting ∧ selecting.mode.keys? = some .none ∧
        word.modifiers.hasCommand = false ∧ word.key ∈ steadyKeys) ∧
      Reachable searching ∧ searching.mode.keys? = some .none ∧
        back.modifiers.hasCommand = false ∧ searching.mode.kind = .normal ∧
        back.key ∈ searchKeys) ∧
      (((selecting.typed (Text.decimal 12)).press word).engine.cursor = ⟨2, 2⟩ ∧
        ((selecting.typed (Text.decimal 12)).press word).engine.snapshot =
          (selecting.pressAll (List.replicate 12 word)).engine.snapshot) ∧
      ((searching.typed (Text.decimal 3)).press back).engine.cursor = ⟨0, 0⟩ ∧
        ((searching.typed (Text.decimal 3)).press back).engine.snapshot =
          (searching.pressAll (List.replicate 3 back)).engine.snapshot := by
  intro selecting searching word back
  have selected : Reachable selecting := (Reachable.ofContent _).run _
  have searched : Reachable searching := (Reachable.ofContent _).run _
  have visual : selecting.mode.keys? = some .none := by decide +kernel
  have normal : searching.mode.keys? = some .none := by decide +kernel
  have kind : searching.mode.kind = .normal := by decide +kernel
  have steady : word.key ∈ steadyKeys := by decide
  have search : back.key ∈ searchKeys := by decide
  have unmodified : word.modifiers.hasCommand = false :=
    KeyEvent.hasCommand_char 'w'
  have shifted : back.modifiers.hasCommand = false :=
    KeyEvent.hasCommand_char 'N'
  exact ⟨⟨⟨selected, visual, unmodified, steady⟩,
      searched, normal, shifted, kind, search⟩,
    ⟨by decide +kernel,
      selected.counted_motion_eq_repeated visual (by decide) (by decide)
        unmodified (Or.inl steady)⟩,
    by decide +kernel,
    searched.counted_motion_eq_repeated normal (by decide) (by decide)
      shifted (Or.inr ⟨kind, search⟩)⟩

end Engine

end ModalEditing
