import ModalEditing.Motion.Column
import ModalEditing.Proofs.Motion.Lookup

namespace ModalEditing

open Unicode

/--
Steps in one direction, of which there are only finitely many from a place.
-/
structure Way where
  step : Position → Option Position
  left : Position → Nat × Nat
  falls {p q : Position} : step p = some q →
    Prod.Lex (· < ·) (· < ·) (left q) (left p)

namespace Way

variable {way : Way} {takes : Position → Position → Bool} {p q : Position}

def walk (way : Way) (takes : Position → Position → Bool)
    (p : Position) : Position :=
  match _ : way.step p with
  | none => p
  | some q => if takes p q then way.walk takes q else p
termination_by way.left p
decreasing_by exact way.falls ‹_›

theorem walk_of_last (last : way.step p = none) : way.walk takes p = p := by
  rw [walk]
  split <;> simp_all

theorem walk_of_taken (next : way.step p = some q) (taken : takes p q = true) :
    way.walk takes p = way.walk takes q := by
  rw [walk]
  split <;> simp_all

theorem walk_of_not_taken
    (stays : ∀ q, way.step p = some q → takes p q = false) :
    way.walk takes p = p := by
  rw [walk]
  split <;> simp_all

theorem walk_preserves {P : Position → Prop}
    (step : ∀ {p q}, way.step p = some q → P p → P q) {p : Position}
    (holds : P p) : P (way.walk takes p) := by
  fun_induction walk way takes p with
  | case1 p last => exact holds
  | case2 p q next taken ih => exact ih (step next holds)
  | case3 p q next stays => exact holds

end Way

namespace Line

theorem runLength_cons (c : Char) (rest : Line) :
    runLength (c :: rest) =
      rest.findIdx (CharClass.of · ≠ CharClass.of c) + 1 := by
  simp [runLength, List.takeWhile_eq_take_findIdx_not, List.findIdx_le_length]

theorem runLength_pos {line : Line} (nonempty : line ≠ []) :
    0 < runLength line := by
  cases line with
  | nil => contradiction
  | cons c rest => exact Nat.succ_pos _

theorem runEnd_bounds {line : Line} {col : Nat} (inside : col < line.length) :
    col < line.runEnd col ∧ line.runEnd col ≤ line.length := by
  have positive :=
    runLength_pos (mt List.drop_eq_nil_iff.mp (Nat.not_le_of_lt inside))
  have short := runLength_le (line.drop col)
  rw [List.length_drop] at short
  unfold runEnd
  omega

theorem map_class_of_lt_runLength {text : Line} {i : Nat}
    (less : i < runLength text) :
    text[i]?.map CharClass.of = text[0]?.map CharClass.of := by
  cases text with
  | nil => contradiction
  | cons c rest =>
      cases i with
      | zero => rfl
      | succ i =>
          rw [runLength_cons] at less
          have less := Nat.lt_of_succ_lt_succ less
          have same := List.not_of_lt_findIdx less
          have inside := Nat.lt_of_lt_of_le less List.findIdx_le_length
          simpa [List.getElem?_eq_getElem inside] using same

theorem class_ne_of_runLength {text : Line} {c : Char}
    (found : text[runLength text]? = some c) :
    text[0]?.map CharClass.of ≠ some (CharClass.of c) := by
  cases text with
  | nil => contradiction
  | cons first rest =>
      rw [runLength_cons, List.getElem?_cons_succ] at found
      obtain ⟨inside, rfl⟩ := List.getElem?_eq_some_iff.mp found
      have other := of_decide_eq_true (List.findIdx_getElem (w := inside))
      exact fun same => other (Option.some.inj same).symm

theorem wordLength_le (line : Line) : wordLength line ≤ line.length := by
  unfold wordLength
  split
  · exact Nat.zero_le _
  · exact runLength_le line

theorem dropWhile_isBlank_of_findIdx? {line : Line} {n : Nat}
    (found : line.findIdx? (!isBlank ·) = some n) :
    line.dropWhile isBlank = line.drop n := by
  rw [List.dropWhile_eq_drop_findIdx_not,
    (List.findIdx?_eq_some_iff_findIdx_eq.mp found).2]

theorem firstEnd?_eq (line : Line) :
    firstEnd? line =
      (line.findIdx? (!isBlank ·)).map fun n =>
        n + runLength (line.drop n) - 1 := by
  unfold firstEnd?
  cases found : line.findIdx? (!isBlank ·) with
  | none =>
      have blank : line.dropWhile isBlank = [] := by
        rw [List.dropWhile_eq_drop_findIdx_not,
          List.findIdx?_eq_none_iff_findIdx_eq.mp found, List.drop_length]
      rw [blank]
      rfl
  | some n =>
      have inside := (List.findIdx?_eq_some_iff_findIdx_eq.mp found).1
      rw [dropWhile_isBlank_of_findIdx? found]
      split
      · rename_i none
        exact absurd (List.drop_eq_nil_iff.mp none) (Nat.not_le_of_lt inside)
      · rename_i c rest same
        have length := congrArg List.length same
        rw [List.length_drop] at length
        rw [Option.map_some, same, ← length,
          Nat.sub_sub_self (Nat.le_of_lt inside)]

theorem lastWord?_concat_blank {c : Char} (blank : isBlank c = true)
    (line : Line) : lastWord? (line ++ [c]) = lastWord? line := by
  simp only [lastWord?, List.reverse_append, List.reverse_singleton,
    List.singleton_append, List.dropWhile_cons, blank, if_true]

theorem lastWord?_concat_of_not_blank {c : Char} (solid : isBlank c = false)
    (line : Line) :
    lastWord? (line ++ [c]) =
      some (line.length + 1 - runLength (line ++ [c]).reverse) := by
  simp [lastWord?, solid]

end Line

namespace Buffer

variable (buffer : Buffer)

/-! The word motions of a buffer as walks from character to character. -/

def next? (p : Position) : Option Position :=
  if p.col < buffer.lineLength p.line then some ⟨p.line, p.col + 1⟩
  else if p.line < buffer.lastLine then some ⟨p.line + 1, 0⟩
  else none

def previous? : Position → Option Position
  | ⟨line, col + 1⟩ => some ⟨line, col⟩
  | ⟨line + 1, 0⟩ => some ⟨line, buffer.lineLength line⟩
  | ⟨0, 0⟩ => none

def forward : Way where
  step := buffer.next?
  left p := (buffer.lineCount - p.line, buffer.lineLength p.line - p.col)
  falls := by
    intro p q next
    unfold next? at next
    split at next
    · cases next
      refine .right _ ?_
      dsimp only
      omega
    · split at next
      · cases next
        refine .left _ _ ?_
        unfold lastLine at *
        dsimp only
        omega
      · contradiction

def backward : Way where
  step := buffer.previous?
  left p := (p.line, p.col)
  falls := by
    intro p q next
    unfold previous? at next
    split at next
    · cases next
      exact .right _ (Nat.lt_succ_self _)
    · cases next
      exact .left _ _ (Nat.lt_succ_self _)
    · contradiction

@[simp] theorem step_forward : buffer.forward.step = buffer.next? := rfl

/-- What is at a place; behind the last character of a line there is a blank. -/
def classAt (p : Position) : CharClass :=
  ((buffer.char? p).map CharClass.of).getD .blank

/--
Whether a motion from a place passes another one: a blank that is not on
another, empty line.
-/
def passes (start p : Position) : Bool :=
  buffer.classAt p == .blank &&
    (p.line == start.line || buffer.lineLength p.line != 0)

def walkWordForward (start : Position) : Position :=
  let behind :=
    if buffer.classAt start = .blank then start
    else buffer.forward.walk (fun p _ =>
      buffer.classAt p == buffer.classAt start) start
  buffer.forward.walk (fun p _ => buffer.passes start p) behind

def walkToRunEnd (p : Position) : Position :=
  buffer.forward.walk (fun _ q => buffer.classAt q == buffer.classAt p) p

def walkToEnd (start p : Position) : Position :=
  let found := buffer.forward.walk (fun q _ => buffer.classAt q == .blank) p
  if buffer.classAt found = .blank then start else buffer.walkToRunEnd found

def walkWordEnd (start : Position) : Position :=
  match buffer.next? start with
  | none => start
  | some next => buffer.walkToEnd start next

def walkToRunStart (p : Position) : Position :=
  buffer.backward.walk (fun q r =>
    r.line == q.line && buffer.classAt r == buffer.classAt p) p

def walkToStart (start p : Position) : Position :=
  let found := buffer.backward.walk (fun q _ => buffer.passes start q) p
  if buffer.classAt found = .blank then found else buffer.walkToRunStart found

def walkBackFrom (start p : Position) : Position :=
  match buffer.previous? p with
  | none => p
  | some previous => buffer.walkToStart start previous

def walkWordBackward (start : Position) : Position :=
  buffer.walkBackFrom start start

/-! Equations of the steps and of what stands at a place. -/

variable {buffer}

theorem lt_lastLine_iff {line : Nat} :
    line < buffer.lastLine ↔ line + 1 < buffer.lineCount := by
  unfold lastLine
  omega

theorem next?_of_lt {line col : Nat} (inside : col < buffer.lineLength line) :
    buffer.next? ⟨line, col⟩ = some ⟨line, col + 1⟩ :=
  if_pos inside

theorem next?_of_le {line col : Nat} (behind : buffer.lineLength line ≤ col) :
    buffer.next? ⟨line, col⟩ = if line < buffer.lastLine then
      some ⟨line + 1, 0⟩ else none :=
  if_neg (Nat.not_lt.mpr behind)

theorem classAt_eq (line col : Nat) :
    buffer.classAt ⟨line, col⟩ =
      (((buffer.lineText line)[col]?).map CharClass.of).getD .blank :=
  rfl

theorem classAt_of_getElem? {line col : Nat} {c : Char}
    (found : (buffer.lineText line)[col]? = some c) :
    buffer.classAt ⟨line, col⟩ = CharClass.of c := by
  simp [classAt_eq, found]

theorem classAt_add (line col i : Nat) :
    buffer.classAt ⟨line, col + i⟩ =
      (((buffer.lineText line).drop col)[i]?.map CharClass.of).getD .blank := by
  rw [classAt_eq, List.getElem?_drop]

theorem classAt_of_le {line col : Nat} (behind : buffer.lineLength line ≤ col) :
    buffer.classAt ⟨line, col⟩ = .blank := by
  have absent : (buffer.lineText line)[col]? = none :=
    List.getElem?_eq_none behind
  simp [classAt_eq, absent]

/-! Along a line. -/

theorem forward_walk_along {takes : Position → Position → Bool}
    {line col n : Nat} (inside : col + n ≤ buffer.lineLength line)
    (taken : ∀ i, i < n → takes ⟨line, col + i⟩ ⟨line, col + i + 1⟩ = true) :
    buffer.forward.walk takes ⟨line, col⟩ =
      buffer.forward.walk takes ⟨line, col + n⟩ := by
  induction n generalizing col with
  | zero => rfl
  | succ n ih =>
      have next : buffer.forward.step ⟨line, col⟩ = some ⟨line, col + 1⟩ :=
        next?_of_lt (by omega)
      rw [Way.walk_of_taken next (taken 0 (Nat.succ_pos n)),
        ih (by omega) fun i less => by
          simpa [Nat.add_assoc, Nat.add_comm 1]
            using taken (i + 1) (Nat.succ_lt_succ less)]
      congr 2
      omega

theorem forward_walk_blanks {takes : Position → Position → Bool} {line : Nat}
    (agrees : ∀ i q, takes ⟨line, i⟩ q = (buffer.classAt ⟨line, i⟩ == .blank))
    (col : Nat) :
    buffer.forward.walk takes ⟨line, col⟩ =
      match ((buffer.lineText line).drop col).findIdx? (!isBlank ·) with
      | some n => ⟨line, col + n⟩
      | none =>
          if line < buffer.lastLine then buffer.forward.walk takes ⟨line + 1, 0⟩
          else ⟨line, max col (buffer.lineLength line)⟩ := by
  have behind : buffer.lineLength line ≤ max col (buffer.lineLength line) :=
    Nat.le_max_right _ _
  have size :
      ((buffer.lineText line).drop col).length = buffer.lineLength line - col :=
    List.length_drop
  split
  · rename_i n found
    obtain ⟨less, hit, before⟩ := List.findIdx?_eq_some_iff_getElem.mp found
    rw [forward_walk_along (n := n) (by omega), Way.walk_of_not_taken]
    · intro q _
      simp only [agrees, classAt_add, List.getElem?_eq_getElem less]
      simpa using hit
    · intro i before'
      simp only [agrees, classAt_add,
        List.getElem?_eq_getElem (Nat.lt_trans before' less)]
      simpa using before i before'
  · rename_i absent
    have blank (i : Nat) : buffer.classAt ⟨line, col + i⟩ = .blank := by
      rw [classAt_add]
      cases found : ((buffer.lineText line).drop col)[i]? with
      | none => rfl
      | some c =>
          have member := List.mem_of_getElem? found
          simpa using List.findIdx?_eq_none_iff.mp absent c member
    have toEnd : buffer.forward.walk takes ⟨line, col⟩ =
        buffer.forward.walk takes ⟨line, max col (buffer.lineLength line)⟩ := by
      rcases Nat.le_total col (buffer.lineLength line) with inside | outside
      · obtain ⟨n, same⟩ := Nat.exists_eq_add_of_le inside
        rw [Nat.max_eq_right inside, same,
          forward_walk_along (Nat.le_of_eq same.symm)]
        intro i _
        simp [agrees, blank]
      · rw [Nat.max_eq_left outside]
    rw [toEnd]
    split
    · refine Way.walk_of_taken ?_ ?_
      · simp [next?_of_le behind, *]
      · simp [agrees, classAt_of_le behind]
    · refine Way.walk_of_last ?_
      simp [next?_of_le behind, *]

theorem classAt_of_lt_runLength {line col i : Nat}
    (less : i < Line.runLength ((buffer.lineText line).drop col)) :
    buffer.classAt ⟨line, col + i⟩ = buffer.classAt ⟨line, col⟩ := by
  rw [classAt_add, Line.map_class_of_lt_runLength less, List.getElem?_drop,
    Nat.add_zero, classAt_eq]

theorem classAt_runLength {line col : Nat}
    (solid : buffer.classAt ⟨line, col⟩ ≠ .blank) :
    buffer.classAt ⟨line,
        col + Line.runLength ((buffer.lineText line).drop col)⟩ ≠
      buffer.classAt ⟨line, col⟩ := by
  rw [classAt_add]
  cases found :
    ((buffer.lineText line).drop col)[Line.runLength
      ((buffer.lineText line).drop col)]? with
  | none => exact solid.symm
  | some c =>
      have other := Line.class_ne_of_runLength found
      rw [List.getElem?_drop, Nat.add_zero] at other
      rw [classAt_eq] at solid ⊢
      cases here : (buffer.lineText line)[col]? with
      | none => simp [here] at solid
      | some d =>
          rw [here] at other
          exact fun same => other (congrArg some same.symm)

theorem runLength_inside {line col : Nat}
    (inside : col ≤ buffer.lineLength line) :
    col + Line.runLength ((buffer.lineText line).drop col) ≤
      buffer.lineLength line := by
  have short := Line.runLength_le ((buffer.lineText line).drop col)
  rw [List.length_drop] at short
  unfold lineLength at *
  omega

theorem lt_lineLength_of_classAt {line col : Nat}
    (solid : buffer.classAt ⟨line, col⟩ ≠ .blank) :
    col < buffer.lineLength line :=
  Nat.lt_of_not_le fun behind => solid (classAt_of_le behind)

theorem runLength_drop_pos {line col : Nat}
    (solid : buffer.classAt ⟨line, col⟩ ≠ .blank) :
    0 < Line.runLength ((buffer.lineText line).drop col) :=
  Line.runLength_pos fun nothing =>
    Nat.not_le_of_lt (lt_lineLength_of_classAt solid)
      (List.drop_eq_nil_iff.mp nothing)

theorem forward_walk_class {line col : Nat}
    (solid : buffer.classAt ⟨line, col⟩ ≠ .blank) :
    buffer.forward.walk (fun p _ =>
        buffer.classAt p == buffer.classAt ⟨line, col⟩) ⟨line, col⟩ =
      ⟨line, col + Line.runLength ((buffer.lineText line).drop col)⟩ := by
  have inside :=
    runLength_inside (Nat.le_of_lt (lt_lineLength_of_classAt solid))
  rw [forward_walk_along inside fun i less =>
    by simp [classAt_of_lt_runLength less], Way.walk_of_not_taken fun q _ =>
      by simpa using classAt_runLength solid]

theorem walkToRunEnd_eq {line col : Nat}
    (solid : buffer.classAt ⟨line, col⟩ ≠ .blank) :
    buffer.walkToRunEnd ⟨line, col⟩ =
      ⟨line, col + Line.runLength ((buffer.lineText line).drop col) - 1⟩ := by
  have inside :=
    runLength_inside (Nat.le_of_lt (lt_lineLength_of_classAt solid))
  obtain ⟨n, length⟩ := Nat.exists_eq_add_one.mpr (runLength_drop_pos solid)
  have other := classAt_runLength solid
  rw [length] at inside other ⊢
  unfold walkToRunEnd
  rw [forward_walk_along (n := n) (by omega)]
  · rw [Way.walk_of_not_taken]
    · rfl
    · intro q next
      rw [step_forward, next?_of_lt (by omega)] at next
      cases next
      exact beq_eq_false_iff_ne.mpr other
  · intro i less
    have same :
        buffer.classAt ⟨line, col + (i + 1)⟩ = buffer.classAt ⟨line, col⟩ :=
      classAt_of_lt_runLength (by omega)
    exact beq_iff_eq.mpr same

/-! Forward to the start of a word. -/

theorem walk_behind_word (line col : Nat) :
    (if buffer.classAt ⟨line, col⟩ = .blank then ⟨line, col⟩
      else buffer.forward.walk (fun p _ =>
        buffer.classAt p == buffer.classAt ⟨line, col⟩) ⟨line, col⟩) =
      Position.mk line (col +
        Line.wordLength ((buffer.lineText line).drop col)) := by
  have blank : ((buffer.lineText line).drop col).head?.all isBlank = true ↔
      buffer.classAt ⟨line, col⟩ = .blank := by
    rw [List.head?_drop, classAt_eq]
    cases (buffer.lineText line)[col]? <;> simp
  unfold Line.wordLength
  split
  · rw [if_pos (blank.mpr ‹_›), Nat.add_zero]
  · rw [if_neg (mt blank.mp ‹_›), forward_walk_class ‹_›]

theorem forward_walk_passes (start : Position) {line : Nat}
    (below : start.line < line) (within : line < buffer.lineCount) :
    buffer.forward.walk (fun p _ => buffer.passes start p) ⟨line, 0⟩ =
      (buffer.findFirst? line buffer.lineCount Line.firstStart?).getD
        ⟨buffer.lastLine, buffer.lineLength buffer.lastLine⟩ := by
  rw [findFirst?_of_lt within]
  by_cases empty : buffer.lineText line = []
  · have shown : buffer.passes start ⟨line, 0⟩ = false := by
      simp [passes, lineLength, empty, Nat.ne_of_gt below]
    rw [Way.walk_of_not_taken fun _ _ => shown, empty]
    rfl
  · have long : buffer.lineLength line ≠ 0 :=
      mt List.length_eq_zero_iff.mp empty
    have first : Line.firstStart? (buffer.lineText line) =
        (buffer.lineText line).findIdx? (!isBlank ·) := by
      simp [Line.firstStart?, empty]
    rw [forward_walk_blanks (by simp [passes, long]), List.drop_zero, first]
    cases (buffer.lineText line).findIdx? (!isBlank ·) with
    | some n => simp
    | none =>
        by_cases more : line < buffer.lastLine
        · have next := lt_lastLine_iff.mp more
          simpa [more] using forward_walk_passes start
            (Nat.lt_succ_of_lt below) next
        · have behind : buffer.lineCount ≤ line + 1 :=
            Nat.le_of_not_lt (mt lt_lastLine_iff.mpr more)
          have last : buffer.lastLine = line := by unfold lastLine; omega
          rw [findFirst?_of_le behind]
          simp [last]
termination_by buffer.lineCount - line

theorem wordForward_eq_walkWordForward (p : Position) :
    buffer.wordForward p = buffer.walkWordForward p := by
  obtain ⟨line, col⟩ := p
  unfold walkWordForward wordForward
  dsimp only
  rw [walk_behind_word, forward_walk_blanks (by simp [passes])]
  cases ((buffer.lineText line).drop
      (col + Line.wordLength ((buffer.lineText line).drop col))).findIdx?
        (!isBlank ·) with
  | some n => rfl
  | none =>
      by_cases more : line < buffer.lastLine
      · have below := forward_walk_passes ⟨line, col⟩ (Nat.lt_succ_self line)
          (lt_lastLine_iff.mp more)
        simp only [endFrom, if_pos more, below]
      · have short := Line.wordLength_le ((buffer.lineText line).drop col)
        rw [List.length_drop] at short
        have last : buffer.lineCount ≤ line + 1 :=
          Nat.le_of_not_lt (mt lt_lastLine_iff.mpr more)
        simp only [endFrom, if_neg more, findFirst?_of_le last,
          Option.getD_none, lineLength, Position.mk.injEq, true_and]
        omega

/-! Forward to the end of a word. -/

theorem walkToEnd_eq (start : Position) (line col : Nat) :
    buffer.walkToEnd start ⟨line, col⟩ =
      match Line.firstEnd? ((buffer.lineText line).drop col) with
      | some n => ⟨line, col + n⟩
      | none =>
          (buffer.findFirst? (line + 1) buffer.lineCount Line.firstEnd?).getD
            start := by
  unfold walkToEnd
  rw [forward_walk_blanks fun _ _ => rfl, Line.firstEnd?_eq]
  cases found : ((buffer.lineText line).drop col).findIdx? (!isBlank ·) with
  | some n =>
      obtain ⟨inside, hit, -⟩ := List.findIdx?_eq_some_iff_getElem.mp found
      have solid : buffer.classAt ⟨line, col + n⟩ ≠ .blank := by
        simpa [classAt_add, List.getElem?_eq_getElem inside] using hit
      have positive := runLength_drop_pos solid
      simp only [if_neg solid, walkToRunEnd_eq solid, Option.map_some,
        List.drop_drop, Position.mk.injEq, true_and]
      omega
  | none =>
      by_cases more : line < buffer.lastLine
      · have next := lt_lastLine_iff.mp more
        have below := walkToEnd_eq start (line + 1) 0
        unfold walkToEnd at below
        rw [findFirst?_of_lt next]
        simp only [if_pos more, Option.map_none, below, List.drop_zero]
        cases Line.firstEnd? (buffer.lineText (line + 1)) <;> simp
      · have last : buffer.lineCount ≤ line + 1 :=
          Nat.le_of_not_lt (mt lt_lastLine_iff.mpr more)
        have blank :=
          classAt_of_le (Nat.le_max_right col (buffer.lineLength line))
        simp [if_neg more, blank, findFirst?_of_le last]
termination_by buffer.lineCount - line

theorem wordEnd_eq_walkWordEnd (p : Position) :
    buffer.wordEnd p = buffer.walkWordEnd p := by
  obtain ⟨line, col⟩ := p
  unfold wordEnd walkWordEnd
  rcases Nat.lt_or_ge col (buffer.lineLength line) with inside | behind
  · rw [next?_of_lt inside]
    exact (buffer.walkToEnd_eq ⟨line, col⟩ line (col + 1)).symm
  · have nothing : (buffer.lineText line).drop (col + 1) = [] :=
      List.drop_eq_nil_of_le (Nat.le_succ_of_le behind)
    have none : Line.firstEnd? [] = none := rfl
    simp only [next?_of_le behind, nothing, none]
    by_cases more : line < buffer.lastLine
    · simp only [if_pos more, walkToEnd_eq,
        findFirst?_of_lt (lt_lastLine_iff.mp more), List.drop_zero]
      cases Line.firstEnd? (buffer.lineText (line + 1)) <;> simp
    · have last : buffer.lineCount ≤ line + 1 :=
        Nat.le_of_not_lt (mt lt_lastLine_iff.mpr more)
      simp [if_neg more, findFirst?_of_le last]

/-! Backward to the start of a word. -/

theorem walkToStart_of_passes {start p : Position}
    (passed : buffer.passes start p = true) :
    buffer.walkToStart start p = buffer.walkBackFrom start p := by
  unfold walkBackFrom
  cases previous : buffer.previous? p with
  | none =>
      have blank : buffer.classAt p = .blank := by
        unfold passes at passed
        simp_all
      unfold walkToStart
      rw [Way.walk_of_last previous]
      simp [blank]
  | some q =>
      have walk : buffer.backward.walk (fun q _ => buffer.passes start q) p =
          buffer.backward.walk (fun q _ => buffer.passes start q) q :=
        Way.walk_of_taken previous passed
      simp only [walkToStart, walk]

theorem walkToStart_of_solid {start p : Position}
    (solid : buffer.classAt p ≠ .blank) :
    buffer.walkToStart start p = buffer.walkToRunStart p := by
  have stays : buffer.passes start p = false := by simp [passes, solid]
  unfold walkToStart
  rw [Way.walk_of_not_taken fun _ _ => stays]
  simp [solid]

theorem backward_walk_along {takes : Position → Position → Bool}
    {line col n : Nat}
    (taken : ∀ i, i < n → takes ⟨line, col + i + 1⟩ ⟨line, col + i⟩ = true) :
    buffer.backward.walk takes ⟨line, col + n⟩ =
      buffer.backward.walk takes ⟨line, col⟩ := by
  induction n with
  | zero => rfl
  | succ n ih =>
      have previous :
          buffer.backward.step ⟨line, col + (n + 1)⟩ = some ⟨line, col + n⟩ :=
        rfl
      rw [Way.walk_of_taken previous (taken n (Nat.lt_succ_self n)),
        ih fun i less => taken i (Nat.lt_succ_of_lt less)]

theorem classAt_sub {line col i : Nat} (inside : col < buffer.lineLength line)
    (before : i ≤ col) :
    buffer.classAt ⟨line, col - i⟩ =
      ((((buffer.lineText line).take (col + 1)).reverse)[i]?.map
        CharClass.of).getD .blank := by
  have size : ((buffer.lineText line).take (col + 1)).length = col + 1 :=
    List.length_take_of_le inside
  have mirrored : col + 1 - 1 - i = col - i := by omega
  rw [classAt_eq, List.getElem?_reverse (by omega), size, mirrored,
    List.getElem?_take_of_lt (by omega)]

theorem walkToRunStart_eq {line col : Nat}
    (solid : buffer.classAt ⟨line, col⟩ ≠ .blank) :
    buffer.walkToRunStart ⟨line, col⟩ =
      ⟨line, col + 1 -
        Line.runLength ((buffer.lineText line).take (col + 1)).reverse⟩ := by
  have inside := lt_lineLength_of_classAt solid
  have here := classAt_sub inside (Nat.zero_le col)
  rw [Nat.sub_zero] at here
  have size :
      ((buffer.lineText line).take (col + 1)).reverse.length = col + 1 := by
    rw [List.length_reverse]
    exact List.length_take_of_le inside
  generalize passed : ((buffer.lineText line).take (col + 1)).reverse =
    run at here size ⊢
  have short := Line.runLength_le run
  obtain ⟨n, length⟩ : ∃ n, Line.runLength run = n + 1 :=
    Nat.exists_eq_add_one.mpr
      (Line.runLength_pos (by rintro rfl; contradiction))
  obtain ⟨first, rfl⟩ : ∃ first, col = first + n := ⟨col - n, by omega⟩
  have mark : first + n + 1 - (n + 1) = first := by omega
  rw [length, mark]
  unfold walkToRunStart
  rw [backward_walk_along]
  · refine Way.walk_of_not_taken fun q previous => ?_
    cases first with
    | zero =>
        cases line with
        | zero => contradiction
        | succ line =>
            cases previous
            simp
    | succ first =>
        cases previous
        have before : first = first + 1 + n - (n + 1) := by omega
        have other := classAt_sub (i := n + 1) inside (by omega)
        obtain ⟨c, found⟩ : ∃ c, run[Line.runLength run]? = some c :=
          ⟨_, List.getElem?_eq_getElem (by omega)⟩
        have differs := Line.class_ne_of_runLength found
        rw [← before, passed, ← length, found, Option.map_some,
          Option.getD_some] at other
        have differ :
            buffer.classAt ⟨line, first⟩ ≠
              buffer.classAt ⟨line, first + 1 + n⟩ := by
          rw [other, here]
          cases start : run[0]? with
          | none => simp [start, solid] at here
          | some d =>
              rw [start] at differs
              exact fun same => differs (congrArg some same.symm)
        simpa using differ
  · intro i less
    have back : first + i = first + n - (n - i) := by omega
    have same := classAt_sub (i := n - i) inside (by omega)
    rw [← back, passed, Line.map_class_of_lt_runLength (by omega),
      ← here] at same
    simp [same]

theorem walkBackFrom_on_line {start : Position} {line : Nat}
    (passed : line = start.line ∨ buffer.lineLength line ≠ 0) (col : Nat) :
    buffer.walkBackFrom start ⟨line, col⟩ =
      match Line.lastWord? ((buffer.lineText line).take col) with
      | some n => ⟨line, n⟩
      | none => buffer.walkBackFrom start ⟨line, 0⟩ := by
  induction col with
  | zero => rfl
  | succ col ih =>
      have previous : buffer.walkBackFrom start ⟨line, col + 1⟩ =
        buffer.walkToStart start ⟨line, col⟩ := rfl
      rw [previous]
      by_cases blank : buffer.classAt ⟨line, col⟩ = .blank
      · have through : buffer.passes start ⟨line, col⟩ = true := by
          simpa [passes, blank] using passed
        have same : Line.lastWord? ((buffer.lineText line).take (col + 1)) =
            Line.lastWord? ((buffer.lineText line).take col) := by
          cases found : (buffer.lineText line)[col]? with
          | none =>
              have behind := List.getElem?_eq_none_iff.mp found
              rw [List.take_of_length_le behind,
                List.take_of_length_le (Nat.le_succ_of_le behind)]
          | some c =>
              rw [classAt_of_getElem? found, CharClass.of_eq_blank_iff] at blank
              rw [List.take_add_one, found, Option.toList_some,
                Line.lastWord?_concat_blank blank]
        rw [walkToStart_of_passes through, ih, same]
      · have last : Line.lastWord? ((buffer.lineText line).take (col + 1)) =
            some (col + 1 -
              Line.runLength ((buffer.lineText line).take
                (col + 1)).reverse) := by
          have inside := lt_lineLength_of_classAt blank
          have found :
              (buffer.lineText line)[col]? = some (buffer.lineText line)[col] :=
            List.getElem?_eq_getElem inside
          have solid : isBlank (buffer.lineText line)[col] = false := by
            simpa [classAt_of_getElem? found] using blank
          have size : ((buffer.lineText line).take col).length = col :=
            List.length_take_of_le (Nat.le_of_lt inside)
          rw [List.take_add_one, found, Option.toList_some,
            Line.lastWord?_concat_of_not_blank solid, size]
        rw [walkToStart_of_solid blank, walkToRunStart_eq blank, last]

theorem walkBackFrom_empty_line {start : Position} {line : Nat}
    (other : line ≠ start.line) (empty : buffer.lineLength line = 0) :
    buffer.walkBackFrom start ⟨line + 1, 0⟩ = ⟨line, 0⟩ := by
  have blank : buffer.classAt ⟨line, 0⟩ = .blank :=
    classAt_of_le (Nat.le_of_eq empty)
  have stays : buffer.passes start ⟨line, 0⟩ = false := by
    simp [passes, other, empty]
  have previous : buffer.walkBackFrom start ⟨line + 1, 0⟩ =
    buffer.walkToStart start ⟨line, buffer.lineLength line⟩ := rfl
  rw [previous, empty]
  unfold walkToStart
  rw [Way.walk_of_not_taken fun _ _ => stays]
  simp [blank]

theorem walkBackFrom_line_start {start : Position} {line : Nat}
    (above : line ≤ start.line) (within : line ≤ buffer.lineCount) :
    buffer.walkBackFrom start ⟨line, 0⟩ =
      (buffer.findLast? 0 line Line.lastStart?).getD .origin := by
  induction line with
  | zero => rfl
  | succ line ih =>
      have other : line ≠ start.line := Nat.ne_of_lt above
      rw [findLast?_succ within]
      by_cases empty : buffer.lineText line = []
      · rw [walkBackFrom_empty_line other (List.length_eq_zero_iff.mpr empty),
          empty]
        rfl
      · have long : buffer.lineLength line ≠ 0 :=
          mt List.length_eq_zero_iff.mp empty
        have blank := classAt_of_le (Nat.le_refl (buffer.lineLength line))
        have previous : buffer.walkBackFrom start ⟨line + 1, 0⟩ =
          buffer.walkToStart start ⟨line, buffer.lineLength line⟩ := rfl
        have last : Line.lastStart? (buffer.lineText line) =
            Line.lastWord? (buffer.lineText line) := by
          simp [Line.lastStart?, empty]
        have whole :
            (buffer.lineText line).take (buffer.lineLength line) =
              buffer.lineText line :=
          List.take_length
        rw [previous, walkToStart_of_passes (by simp [passes, blank, long]),
          walkBackFrom_on_line (Or.inr long), whole, last,
          ih (Nat.le_of_succ_le above) (Nat.le_of_succ_le within)]
        cases Line.lastWord? (buffer.lineText line) <;> rfl

theorem wordBackward_eq_walkWordBackward (p : Position) :
    buffer.wordBackward p = buffer.walkWordBackward p := by
  obtain ⟨line, col⟩ := p
  unfold wordBackward walkWordBackward
  rw [walkBackFrom_on_line (Or.inl rfl)]
  cases Line.lastWord? ((buffer.lineText line).take col) with
  | some n => rfl
  | none =>
      dsimp only
      split
      · rename_i outside
        obtain ⟨above, rfl⟩ :=
          Nat.exists_eq_add_one.mpr (Nat.zero_lt_of_lt outside)
        have missing : buffer.line? above = none :=
          List.getElem?_eq_none (Nat.le_of_lt_succ outside)
        rw [walkBackFrom_empty_line (Nat.ne_of_lt (Nat.lt_succ_self _))
          (by simp [lineLength, lineText, missing])]
        rfl
      · rw [walkBackFrom_line_start (Nat.le_refl _) (Nat.le_of_not_lt ‹_›)]

end Buffer

end ModalEditing
