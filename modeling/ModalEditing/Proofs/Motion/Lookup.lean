import ModalEditing.Motion.Word
import ModalEditing.Proofs.Foremost

namespace ModalEditing.Buffer

variable {buffer : Buffer}

/-! Looking through the lines one by one. -/

theorem numberedLines_eq_map {start stop : Nat}
    (within : stop ≤ buffer.lineCount) :
    buffer.numberedLines start stop =
      (List.range' start (stop - start)).map fun number =>
        (buffer.lineText number, number) := by
  change stop ≤ buffer.lines.length at within
  refine List.ext_getElem (by simp [numberedLines]; omega) fun i inside _ => ?_
  have inside : i < stop - start := by
    simpa [numberedLines, Nat.min_eq_left within] using inside
  have found : buffer.lines[start + i]? = some buffer.lines[start + i] :=
    List.getElem?_eq_getElem (by omega)
  simp [numberedLines, lineText, line?, found]

theorem findFirst?_eq_findSome? {start stop : Nat}
    (within : stop ≤ buffer.lineCount) (find : Line → Option Nat) :
    buffer.findFirst? start stop find =
      (List.range' start (stop - start)).findSome? fun number =>
        (find (buffer.lineText number)).map (Position.mk number) := by
  rw [findFirst?, numberedLines_eq_map within, List.findSome?_map]
  rfl

theorem findLast?_eq_findSome? {start stop : Nat}
    (within : stop ≤ buffer.lineCount) (find : Line → Option Nat) :
    buffer.findLast? start stop find =
      (List.range' start (stop - start)).reverse.findSome? fun number =>
        (find (buffer.lineText number)).map (Position.mk number) := by
  rw [findLast?, numberedLines_eq_map within, ← List.map_reverse,
    List.findSome?_map]
  rfl

theorem findFirst?_of_lt {start : Nat} (within : start < buffer.lineCount)
    (find : Line → Option Nat) :
    buffer.findFirst? start buffer.lineCount find =
      ((find (buffer.lineText start)).map (Position.mk start)).or
        (buffer.findFirst? (start + 1) buffer.lineCount find) := by
  obtain ⟨n, rest⟩ : ∃ n, buffer.lineCount - start = n + 1 :=
    Nat.exists_eq_add_one.mpr (Nat.sub_pos_of_lt within)
  have others : buffer.lineCount - (start + 1) = n := by omega
  rw [findFirst?_eq_findSome? (Nat.le_refl _),
    findFirst?_eq_findSome? (Nat.le_refl _), rest, others, List.range'_succ,
    List.findSome?_cons]
  cases find (buffer.lineText start) <;> rfl

theorem findFirst?_of_le {start : Nat} (behind : buffer.lineCount ≤ start)
    (find : Line → Option Nat) :
    buffer.findFirst? start buffer.lineCount find = none := by
  rw [findFirst?_eq_findSome? (Nat.le_refl _), Nat.sub_eq_zero_of_le behind]
  rfl

theorem findLast?_succ {stop : Nat} (within : stop < buffer.lineCount)
    (find : Line → Option Nat) :
    buffer.findLast? 0 (stop + 1) find =
      ((find (buffer.lineText stop)).map (Position.mk stop)).or
        (buffer.findLast? 0 stop find) := by
  rw [findLast?_eq_findSome? within,
    findLast?_eq_findSome? (Nat.le_of_lt within), Nat.sub_zero, Nat.sub_zero,
    List.range'_1_concat, List.reverse_append, List.findSome?_append,
    Nat.zero_add, List.reverse_singleton, List.findSome?_singleton]

/-! The places that are found are the first and the last ones. -/

/--
The places on the lines from `start` to before `stop` at columns that depend on
the line.
-/
def placesOn (buffer : Buffer) (start stop : Nat)
    (columns : Line → Set Nat) : Set Position :=
  {p | (start ≤ p.line ∧ p.line < stop) ∧
    p.col ∈ columns (buffer.lineText p.line)}

def placesOnLine (line : Nat) (columns : Set Nat) : Set Position :=
  {p | p.line = line ∧ p.col ∈ columns}

theorem image_mk_eq_placesOnLine (line : Nat) (columns : Set Nat) :
    Position.mk line '' columns = placesOnLine line columns := by
  ext p
  constructor
  · rintro ⟨col, member, rfl⟩
    exact ⟨rfl, member⟩
  · rintro ⟨rfl, member⟩
    exact ⟨p.col, member, rfl⟩

theorem mem_placesOn_iff {start stop : Nat} {columns : Line → Set Nat}
    {p : Position} :
    p ∈ buffer.placesOn start stop columns ↔
      ∃ line ∈ List.range' start (stop - start),
        p ∈ placesOnLine line (columns (buffer.lineText line)) := by
  have inside : start ≤ p.line ∧ p.line < start + (stop - start) ↔
      start ≤ p.line ∧ p.line < stop := by
    omega
  simp [placesOn, placesOnLine, List.mem_range'_1, inside]

theorem isForemost_on_line {columns : Set Nat} {answer : Option Nat}
    (foremost : IsForemost (· ≤ ·) columns answer) (line : Nat) :
    IsForemost (· ≤ ·) (placesOnLine line columns)
      (answer.map (Position.mk line)) := by
  rw [← image_mk_eq_placesOnLine]
  exact foremost.map fun before => Or.inr ⟨rfl, before⟩

theorem isLast_on_line {columns : Set Nat} {answer : Option Nat}
    (last : IsForemost (· ≥ ·) columns answer) (line : Nat) :
    IsForemost (· ≥ ·) (placesOnLine line columns)
      (answer.map (Position.mk line)) := by
  rw [← image_mk_eq_placesOnLine]
  exact last.map fun behind => Or.inr ⟨rfl, behind⟩

theorem isForemost_findFirst? {find : Line → Option Nat}
    {columns : Line → Set Nat}
    (found : ∀ text, IsForemost (· ≤ ·) (columns text) (find text))
    (start : Nat) {stop : Nat} (within : stop ≤ buffer.lineCount) :
    IsForemost (· ≤ ·) (buffer.placesOn start stop columns)
      (buffer.findFirst? start stop find) := by
  rw [findFirst?_eq_findSome? within]
  refine (IsForemost.findSome? (fun line _ =>
    isForemost_on_line (found _) line) ?_).congr ?_
  · refine (List.pairwise_lt_range' ..).imp fun above => ?_
    rintro p ⟨rfl, -⟩ q ⟨rfl, -⟩
    exact Or.inl above
  · intro p
    simp [mem_placesOn_iff]

theorem isLast_findLast? {find : Line → Option Nat} {columns : Line → Set Nat}
    (found : ∀ text, IsForemost (· ≥ ·) (columns text) (find text))
    (start : Nat) {stop : Nat} (within : stop ≤ buffer.lineCount) :
    IsForemost (· ≥ ·) (buffer.placesOn start stop columns)
      (buffer.findLast? start stop find) := by
  rw [findLast?_eq_findSome? within]
  refine (IsForemost.findSome? (fun line _ =>
    isLast_on_line (found _) line) ?_).congr ?_
  · refine List.pairwise_reverse.mpr
      ((List.pairwise_lt_range' ..).imp fun above => ?_)
    rintro p ⟨rfl, -⟩ q ⟨rfl, -⟩
    exact Or.inl above
  · intro p
    simp [mem_placesOn_iff]

/-! Looking on from a place, and back from it. -/

def places (buffer : Buffer) (columns : Line → Set Nat) : Set Position :=
  {p | p.line < buffer.lineCount ∧ p.col ∈ columns (buffer.lineText p.line)}

variable {p : Position} {find : Line → Option Nat} {columns : Line → Set Nat}
  {answer : Option Nat}

theorem isForemost_ahead (within : p.line < buffer.lineCount)
    (found : ∀ text, IsForemost (· ≤ ·) (columns text) (find text))
    (here : IsForemost (· ≤ ·) {col | p.col < col ∧
      col ∈ columns (buffer.lineText p.line)} answer) :
    IsForemost (· ≤ ·) {q ∈ buffer.places columns | p < q}
      ((answer.map (Position.mk p.line)).or
        (buffer.findFirst? (p.line + 1) buffer.lineCount find)) := by
  have below :=
    isForemost_findFirst? found (p.line + 1) (Nat.le_refl buffer.lineCount)
  refine ((isForemost_on_line here p.line).or below ?_).congr fun q => ?_
  · rintro q ⟨same, -⟩ later ⟨⟨above, -⟩, -⟩
    exact Or.inl (by omega)
  · obtain ⟨line, col⟩ := q
    constructor
    · rintro ⟨⟨inside, member⟩, above | ⟨rfl, further⟩⟩
      · exact Or.inr ⟨⟨above, inside⟩, member⟩
      · exact Or.inl ⟨rfl, further, member⟩
    · rintro (⟨rfl, further, member⟩ | ⟨⟨above, inside⟩, member⟩)
      · exact ⟨⟨within, member⟩, Or.inr ⟨rfl, further⟩⟩
      · exact ⟨⟨inside, member⟩, Or.inl above⟩

theorem isLast_behind (within : p.line < buffer.lineCount)
    (found : ∀ text, IsForemost (· ≥ ·) (columns text) (find text))
    (here : IsForemost (· ≥ ·) {col | col < p.col ∧
      col ∈ columns (buffer.lineText p.line)} answer) :
    IsForemost (· ≥ ·) {q ∈ buffer.places columns | q < p}
      ((answer.map (Position.mk p.line)).or
        (buffer.findLast? 0 p.line find)) := by
  have above := isLast_findLast? found 0 (Nat.le_of_lt within)
  refine ((isLast_on_line here p.line).or above ?_).congr fun q => ?_
  · rintro q ⟨same, -⟩ earlier ⟨⟨-, below⟩, -⟩
    exact Or.inl (by omega)
  · obtain ⟨line, col⟩ := q
    constructor
    · rintro ⟨⟨inside, member⟩, below | ⟨rfl, before⟩⟩
      · exact Or.inr ⟨⟨Nat.zero_le line, below⟩, member⟩
      · exact Or.inl ⟨rfl, before, member⟩
    · rintro (⟨rfl, before, member⟩ | ⟨⟨-, below⟩, member⟩)
      · exact ⟨⟨within, member⟩, Or.inr ⟨rfl, before⟩⟩
      · exact ⟨⟨Nat.lt_trans below within, member⟩, Or.inl below⟩

/-!
Looking on from the start of a text when nothing lies ahead, and from its end.
-/

theorem isForemost_from_start (within : p.line < buffer.lineCount)
    (found : ∀ text, IsForemost (· ≤ ·) (columns text) (find text))
    (last : ∀ q ∈ buffer.places columns, ¬ p < q) :
    IsForemost (· ≤ ·) (buffer.places columns)
      ((buffer.findFirst? 0 p.line find).or
        ((find (buffer.lineText p.line)).map (Position.mk p.line))) := by
  have above := isForemost_findFirst? found 0 (Nat.le_of_lt within)
  refine (above.or (isForemost_on_line (found (buffer.lineText p.line)) p.line)
    ?_).congr fun q => ?_
  · rintro q ⟨⟨-, less⟩, -⟩ later ⟨same, -⟩
    exact Or.inl (by omega)
  · constructor
    · rintro ⟨inside, member⟩
      rcases Position.not_lt.mp (last q ⟨inside, member⟩) with less | ⟨same, -⟩
      · exact Or.inl ⟨⟨Nat.zero_le _, less⟩, member⟩
      · exact Or.inr ⟨same, same ▸ member⟩
    · rintro (⟨⟨-, less⟩, member⟩ | ⟨same, member⟩)
      · exact ⟨Nat.lt_trans less within, member⟩
      · exact ⟨same ▸ within, same ▸ member⟩

theorem isLast_from_end (within : p.line < buffer.lineCount)
    (found : ∀ text, IsForemost (· ≥ ·) (columns text) (find text))
    (first : ∀ q ∈ buffer.places columns, ¬ q < p) :
    IsForemost (· ≥ ·) (buffer.places columns)
      ((buffer.findLast? (p.line + 1) buffer.lineCount find).or
        ((find (buffer.lineText p.line)).map (Position.mk p.line))) := by
  have below :=
    isLast_findLast? found (p.line + 1) (Nat.le_refl buffer.lineCount)
  refine (below.or (isLast_on_line (found (buffer.lineText p.line)) p.line)
    ?_).congr fun q => ?_
  · rintro q ⟨⟨greater, -⟩, -⟩ later ⟨same, -⟩
    exact Or.inl (by omega)
  · constructor
    · rintro ⟨inside, member⟩
      rcases Position.not_lt.mp (first q ⟨inside, member⟩) with
          greater | ⟨same, -⟩
      · exact Or.inl ⟨⟨greater, inside⟩, member⟩
      · exact Or.inr ⟨same.symm, same ▸ member⟩
    · rintro (⟨⟨-, inside⟩, member⟩ | ⟨same, member⟩)
      · exact ⟨inside, member⟩
      · exact ⟨same ▸ within, same ▸ member⟩

end ModalEditing.Buffer
