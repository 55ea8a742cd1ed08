import ModalEditing.Proofs.Motion.Lookup
import ModalEditing.Search

namespace ModalEditing

namespace Text

variable {text pattern : Text}

def beginsAt (text pattern : Text) (col : Nat) : Bool :=
  pattern.isPrefixOf (text.drop col)

theorem inside_of_beginsAt {col : Nat} (nonempty : pattern ≠ [])
    (begins : text.beginsAt pattern col = true) :
    col + pattern.length ≤ text.length := by
  have short := (List.isPrefixOf_iff_prefix.mp begins).length_le
  have positive := List.length_pos_iff.mpr nonempty
  rw [List.length_drop] at short
  omega

def beginnings (text pattern : Text) : List Nat :=
  (List.range' 0 text.length).filter (text.beginsAt pattern)

end Text

theorem length_foldCase (text : Text) : (foldCase text).length = text.length :=
  List.length_map _

theorem Line.matchesFrom_eq_filter (pattern : Text) (start : Nat)
    (line : Line) :
    matchesFrom pattern start line =
      (List.range' start line.length).filter fun col =>
        Text.beginsAt line pattern (col - start) := by
  induction line generalizing start with
  | nil => rfl
  | cons c rest ih =>
      have others : (List.range' (start + 1) rest.length).filter
            (fun col => Text.beginsAt (c :: rest) pattern (col - start)) =
          (List.range' (start + 1) rest.length).filter
            fun col => Text.beginsAt rest pattern (col - (start + 1)) := by
        refine List.filter_congr fun col member => ?_
        obtain ⟨n, rfl⟩ :=
          Nat.exists_eq_add_of_le (List.mem_range'_1.mp member).1
        have next : start + 1 + n - start = n + 1 := by omega
        rw [next, Nat.add_sub_cancel_left]
        rfl
      rw [List.length_cons, List.range'_succ, List.filter_cons, others, ← ih,
        Nat.sub_self]
      rfl

theorem Line.matchColumns_eq_beginnings (pattern : Text) (line : Line) :
    matchColumns pattern line = Text.beginnings (foldCase line) pattern :=
  matchesFrom_eq_filter pattern 0 (foldCase line)

theorem Line.lt_of_mem_matchColumns {pattern : Text} {line : Line} {col : Nat}
    (member : col ∈ matchColumns pattern line) : col < line.length := by
  rw [matchColumns_eq_beginnings] at member
  obtain ⟨-, upper⟩ := List.mem_range'_1.mp (List.mem_filter.mp member).1
  simpa [length_foldCase] using upper

namespace Line

variable {pattern : Text}

/-!
The matches on a line are in order, so that those a search takes are its first
and its last.
-/

def matchSet (pattern : Text) (line : Line) : Set Nat :=
  {col | pattern <+: (foldCase line).drop col}

theorem sorted_matchColumns (pattern : Text) (line : Line) :
    (matchColumns pattern line).Pairwise (· ≤ ·) := by
  rw [matchColumns_eq_beginnings]
  exact ((List.pairwise_lt_range' ..).imp Nat.le_of_lt).filter _

theorem mem_matchColumns_iff (nonempty : pattern ≠ []) {line : Line}
    {col : Nat} :
    col ∈ matchColumns pattern line ↔ col ∈ matchSet pattern line := by
  have begins :
      Text.beginsAt (foldCase line) pattern col = true ↔
        col ∈ matchSet pattern line :=
    List.isPrefixOf_iff_prefix
  rw [matchColumns_eq_beginnings, Text.beginnings, List.mem_filter, begins,
    List.mem_range'_1]
  refine and_iff_right_of_imp fun member => ⟨Nat.zero_le col, ?_⟩
  have inside := Text.inside_of_beginsAt nonempty (begins.mpr member)
  have positive := List.length_pos_iff.mpr nonempty
  omega

theorem isForemost_head?_matchColumns (nonempty : pattern ≠ []) (line : Line) :
    IsForemost (· ≤ ·) (matchSet pattern line)
      (matchColumns pattern line).head? :=
  (IsForemost.head? Nat.le_refl (sorted_matchColumns pattern line)).congr
    fun _ => (mem_matchColumns_iff nonempty).symm

theorem isLast_getLast?_matchColumns (nonempty : pattern ≠ []) (line : Line) :
    IsForemost (· ≥ ·) (matchSet pattern line)
      (matchColumns pattern line).getLast? := by
  have last : IsForemost (· ≥ ·) {col | col ∈ matchColumns pattern line}
      (matchColumns pattern line).getLast? := by
    refine IsForemost.getLast? (fun col => ?_)
      (sorted_matchColumns pattern line)
    exact Nat.le_refl col
  exact last.congr fun _ => (mem_matchColumns_iff nonempty).symm

theorem isForemost_find?_matchColumns (nonempty : pattern ≠ []) (line : Line)
    (n : Nat) :
    IsForemost (· ≤ ·) {col | n < col ∧ col ∈ matchSet pattern line}
      ((matchColumns pattern line).find? (n < ·)) := by
  have sorted := (sorted_matchColumns pattern line).filter (n < ·)
  rw [← List.head?_filter]
  refine (IsForemost.head? Nat.le_refl sorted).congr fun col => ?_
  simp [mem_matchColumns_iff nonempty, and_comm]

theorem isLast_filter_matchColumns (nonempty : pattern ≠ []) (line : Line)
    (n : Nat) :
    IsForemost (· ≥ ·) {col | col < n ∧ col ∈ matchSet pattern line}
      ((matchColumns pattern line).filter (· < n)).getLast? := by
  have sorted := (sorted_matchColumns pattern line).filter (· < n)
  have last :
      IsForemost (· ≥ ·)
        {col | col ∈ (matchColumns pattern line).filter (· < n)}
        ((matchColumns pattern line).filter (· < n)).getLast? := by
    refine IsForemost.getLast? (fun col => ?_) sorted
    exact Nat.le_refl col
  refine last.congr fun col => ?_
  simp [mem_matchColumns_iff nonempty, and_comm]

end Line

namespace Direction

/--
Whether a search in a direction that starts at a place comes to another one on
its way.
-/
def Ahead : Direction → Position → Position → Prop
  | forward, p, q => p < q
  | backward, p, q => q < p

/--
Whether a search in a direction does not come to a place before another one.
-/
def Before : Direction → Position → Position → Prop
  | forward, p, q => p ≤ q
  | backward, p, q => q ≤ p

variable {direction : Direction} {p q : Position}

theorem not_ahead_iff : ¬ direction.Ahead p q ↔ direction.Before q p := by
  cases direction with
  | forward => exact Position.not_lt
  | backward => exact Position.not_lt

theorem eq_of_before_of_before (there : direction.Before p q)
    (back : direction.Before q p) : p = q := by
  cases direction with
  | forward => exact Position.eq_of_le_of_le there back
  | backward => exact Position.eq_of_le_of_le back there

end Direction

namespace Buffer

variable {buffer : Buffer} {p q : Position} {pattern : Text}
  {direction : Direction}

/--
A pattern begins at a place, whatever the case of its letters and of those in
the text.
-/
def MatchesAt (buffer : Buffer) (pattern : Text) (p : Position) : Prop :=
  p.line < buffer.lineCount ∧
    foldCase pattern <+: (foldCase (buffer.lineText p.line)).drop p.col

theorem search?_eq (within : p.line < buffer.lineCount)
    (nonempty : pattern ≠ []) (direction : Direction) :
    buffer.search? p pattern direction =
      match direction with
      | .forward => buffer.searchForward? p (foldCase pattern)
      | .backward => buffer.searchBackward? p (foldCase pattern) := by
  have place : (⟨min p.line buffer.lastLine, p.col⟩ : Position) = p := by
    have line : min p.line buffer.lastLine = p.line := by
      unfold lastLine
      omega
    rw [line]
  cases direction <;> simp [search?, nonempty, place]

/--
A search takes the first match ahead of its start, and without one the first of
all.
-/
theorem exists_search?_eq_or (within : p.line < buffer.lineCount)
    (nonempty : pattern ≠ []) (direction : Direction) :
    ∃ rest all, buffer.search? p pattern direction = Option.or rest all ∧
      IsForemost direction.Before
        {q ∈ {q | buffer.MatchesAt pattern q} | direction.Ahead p q} rest ∧
      ((∀ q ∈ {q | buffer.MatchesAt pattern q}, ¬ direction.Ahead p q) →
        IsForemost direction.Before {q | buffer.MatchesAt pattern q} all) := by
  have folded : foldCase pattern ≠ [] := by simpa [foldCase] using nonempty
  rw [search?_eq within nonempty]
  cases direction with
  | forward =>
      have here :=
        Line.isForemost_find?_matchColumns folded (buffer.lineText p.line) p.col
      have first := Line.isForemost_head?_matchColumns folded
      refine ⟨_, _, ?_, isForemost_ahead within first here,
        isForemost_from_start within first⟩
      simp [searchForward?, Option.or_assoc]
  | backward =>
      have here :=
        Line.isLast_filter_matchColumns folded (buffer.lineText p.line) p.col
      have last := Line.isLast_getLast?_matchColumns folded
      refine ⟨_, _, ?_, isLast_behind within last here,
        isLast_from_end within last⟩
      simp [searchBackward?, Option.or_assoc]

theorem search?_eq_some_iff (within : p.line < buffer.lineCount)
    (nonempty : pattern ≠ []) :
    buffer.search? p pattern direction = some q ↔
      IsNextAround direction.Ahead direction.Before
        {q | buffer.MatchesAt pattern q} p q := by
  obtain ⟨rest, all, search, ahead, around⟩ :=
    exists_search?_eq_or within nonempty direction
  rw [search]
  exact ahead.or_eq_some_iff Direction.eq_of_before_of_before around

theorem search?_eq_none_iff (within : p.line < buffer.lineCount)
    (nonempty : pattern ≠ []) :
    buffer.search? p pattern direction = none ↔
      {q | buffer.MatchesAt pattern q} = ∅ := by
  obtain ⟨rest, all, search, ahead, around⟩ :=
    exists_search?_eq_or within nonempty direction
  rw [search]
  exact ahead.or_eq_none_iff around

theorem MatchesAt.lt_lineLength (found : buffer.MatchesAt pattern p)
    (nonempty : pattern ≠ []) : p.col < buffer.lineLength p.line := by
  have short := found.2.length_le
  have positive := List.length_pos_iff.mpr nonempty
  rw [List.length_drop, length_foldCase, length_foldCase] at short
  unfold lineLength
  omega

theorem matchesAt_of_search? (lines : buffer.lines ≠ [])
    (search : buffer.search? p pattern direction = some q) :
    pattern ≠ [] ∧ buffer.MatchesAt pattern q := by
  have nonempty : pattern ≠ [] := by
    rintro rfl
    cases search
  let nearest : Position := ⟨min p.line buffer.lastLine, p.col⟩
  have within : nearest.line < buffer.lineCount := by
    have positive : 0 < buffer.lineCount := List.length_pos_iff.mpr lines
    simp only [nearest, lastLine]
    omega
  have same :
      buffer.search? nearest pattern direction =
        buffer.search? p pattern direction := by
    simp [nearest, search?]
  rw [← same] at search
  exact ⟨nonempty, ((search?_eq_some_iff within nonempty).mp search).mem⟩

theorem MatchesAt.exists_search?_reversed (found : buffer.MatchesAt pattern p)
    (nonempty : pattern ≠ []) (direction : Direction) :
    ∃ q, buffer.search? p pattern direction = some q ∧
      buffer.search? q pattern direction.reversed = some p := by
  cases search : buffer.search? p pattern direction with
  | none =>
      have none := (search?_eq_none_iff found.1 nonempty).mp search
      exact absurd found (Set.eq_empty_iff_forall_notMem.mp none p)
  | some q =>
      refine ⟨q, rfl, ?_⟩
      have next := (search?_eq_some_iff found.1 nonempty).mp search
      have member : p ∈ {q | buffer.MatchesAt pattern q} := found
      have back := next.swap Direction.not_ahead_iff member
      refine (search?_eq_some_iff next.mem.1 nonempty).mpr ?_
      cases direction <;> exact back

/--
A search finds the next match in its direction, and behind the last one it goes
on with the first; without any match it finds nothing. From a match a search and
then one the other way lead back.
-/
theorem search?_next_match (within : p.line < buffer.lineCount)
    (nonempty : pattern ≠ []) :
    let found := {q | buffer.MatchesAt pattern q}
    (∀ q, buffer.search? p pattern .forward = some q ↔
      IsLeast {m ∈ found | p < m} q ∨
        (∀ m ∈ found, ¬ p < m) ∧ IsLeast found q) ∧
    (∀ q, buffer.search? p pattern .backward = some q ↔
      IsGreatest {m ∈ found | m < p} q ∨
        (∀ m ∈ found, ¬ m < p) ∧ IsGreatest found q) ∧
    (∀ direction, buffer.search? p pattern direction = none ↔ found = ∅) ∧
    (p ∈ found → ∀ direction : Direction, ∃ q,
      buffer.search? p pattern direction = some q ∧
        buffer.search? q pattern direction.reversed = some p) :=
  ⟨fun _ => search?_eq_some_iff within nonempty, fun _ =>
    search?_eq_some_iff within nonempty,
      fun _ => search?_eq_none_iff within nonempty,
      fun member direction => member.exists_search?_reversed nonempty direction⟩

/--
From the last match, behind which a search goes on with the first one, and a
missing pattern.
-/
theorem search?_next_match_from_last :
    let buffer := Buffer.ofContent "Ab ab\nbaB"
    let found := {q | buffer.MatchesAt ['a', 'B'] q}
    ((1 < buffer.lineCount ∧ ['a', 'B'] ≠ [] ∧ ['a', 'a'] ≠ []) ∧
        ⟨1, 1⟩ ∈ found) ∧
      IsLeast found ⟨0, 0⟩ ∧ IsGreatest {m ∈ found | m < ⟨1, 1⟩} ⟨0, 3⟩ ∧
      buffer.search? ⟨0, 0⟩ ['a', 'B'] .backward = some ⟨1, 1⟩ ∧
      {q | buffer.MatchesAt ['a', 'a'] q} = ∅ := by
  intro buffer found
  have within : 1 < buffer.lineCount := by decide +kernel
  have member : ⟨1, 1⟩ ∈ found := ⟨within, by decide +kernel⟩
  have forward : buffer.search? ⟨1, 1⟩ ['a', 'B'] .forward = some ⟨0, 0⟩ := by
    decide +kernel
  have backward : buffer.search? ⟨1, 1⟩ ['a', 'B'] .backward = some ⟨0, 3⟩ := by
    decide +kernel
  have missing : buffer.search? ⟨1, 1⟩ ['a', 'a'] .forward = none := by
    decide +kernel
  obtain ⟨next, previous, -, restores⟩ :=
    search?_next_match (p := ⟨1, 1⟩) within (List.cons_ne_nil 'a' ['B'])
  obtain ⟨-, -, absent, -⟩ :=
    search?_next_match (p := ⟨1, 1⟩) within (List.cons_ne_nil 'a' ['a'])
  obtain ⟨q, first, back⟩ := restores member .forward
  rw [Option.some.inj (first.symm.trans forward)] at back
  refine ⟨⟨⟨within, by decide, by decide⟩, member⟩, ?_, ?_, back,
    (absent .forward).mp missing⟩
  · refine ((next _).mp forward).elim (fun least => ?_) And.right
    exact absurd least.1.2 (by decide)
  · refine ((previous _).mp backward).elim id fun greatest => ?_
    exact absurd (greatest.2.2 member) (by decide)

end Buffer

end ModalEditing
