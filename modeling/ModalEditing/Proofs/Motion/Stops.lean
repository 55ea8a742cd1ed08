import ModalEditing.Motion.Column
import ModalEditing.Proofs.Motion.Walk

namespace ModalEditing

open Unicode

namespace Line

/-!
Where words start and end on a line. A word is a run of characters of one class
other than blanks, so each of its two ends is a character whose neighbour on
that side, if any, is of another class.
-/

def class? (text : Line) (col : Nat) : Option CharClass :=
  text[col]?.map CharClass.of

/-- A column holds a character other than a blank. -/
def InWord (line : Line) (col : Nat) : Prop :=
  ∃ kind ≠ CharClass.blank, line.class? col = some kind

/--
A character of a word is the first on its line, or the one before it is of
another class.
-/
def StartsWord (line : Line) (col : Nat) : Prop :=
  ∃ kind ≠ CharClass.blank, line.class? col = some kind ∧
    ∀ before, col = before + 1 → line.class? before ≠ some kind

/--
A character of a word is the last on its line, or the one behind it is of
another class.
-/
def EndsWord (line : Line) (col : Nat) : Prop :=
  ∃ kind ≠ CharClass.blank, line.class? col = some kind ∧
    line.class? (col + 1) ≠ some kind

/--
Where a motion to the starts of words stops: an empty line counts as a word.
-/
def IsStop (line : Line) (col : Nat) : Prop :=
  line.StartsWord col ∨ line = [] ∧ col = 0

variable {line : Line} {col : Nat}

theorem StartsWord.inWord (starts : line.StartsWord col) : line.InWord col := by
  obtain ⟨kind, solid, here, -⟩ := starts
  exact ⟨kind, solid, here⟩

theorem EndsWord.inWord (ends : line.EndsWord col) : line.InWord col := by
  obtain ⟨kind, solid, here, -⟩ := ends
  exact ⟨kind, solid, here⟩

theorem isStop_iff_startsWord (word : ¬ (line = [] ∧ col = 0)) :
    line.IsStop col ↔ line.StartsWord col :=
  or_iff_left word

theorem isForemost_isStop_behind {answer : Option Nat}
    (starts : IsForemost (· ≤ ·) {next | col < next ∧
      line.StartsWord next} answer) :
    IsForemost (· ≤ ·) {next | col < next ∧ line.IsStop next} answer :=
  starts.congr fun _ => and_congr_right fun further =>
    isStop_iff_startsWord fun start => Nat.ne_zero_of_lt further start.2

theorem InWord.lt_length (inside : line.InWord col) : col < line.length := by
  obtain ⟨kind, -, here⟩ := inside
  obtain ⟨c, found, -⟩ := Option.map_eq_some_iff.mp here
  exact (List.getElem?_eq_some_iff.mp found).1

theorem inWord_iff_getElem {text : Line} :
    text.InWord col ↔ ∃ inside : col < text.length,
    isBlank text[col] = false := by
  constructor
  · intro word
    have inside := word.lt_length
    refine ⟨inside, ?_⟩
    obtain ⟨kind, solid, here⟩ := word
    have same : CharClass.of text[col] = kind := by
      simpa [class?, inside] using here
    simpa [← same] using solid
  · rintro ⟨inside, solid⟩
    exact ⟨CharClass.of text[col], by simp [solid], by simp [class?, inside]⟩

theorem InWord.runLength_pos (word : line.InWord col) :
    0 < runLength (line.drop col) :=
  Line.runLength_pos (by simpa using word.lt_length)

theorem InWord.startsWord (word : line.InWord col)
    (before : ∀ i, col = i + 1 → ¬ line.InWord i) : line.StartsWord col := by
  obtain ⟨kind, solid, here⟩ := word
  exact ⟨kind, solid, here, fun i next same =>
    before i next ⟨kind, solid, same⟩⟩

theorem class?_drop (line : Line) (n col : Nat) :
    class? (line.drop n) col = line.class? (n + col) := by
  simp [class?]

theorem class?_take (line : Line) {n col : Nat} (less : col < n) :
    class? (line.take n) col = line.class? col := by
  simp [class?, less]

theorem class?_reverse (inside : col < line.length) :
    class? line.reverse (line.length - 1 - col) = line.class? col := by
  have mirrored : line.length - 1 - (line.length - 1 - col) = col := by omega
  rw [class?, List.getElem?_reverse (by omega), mirrored]
  rfl

theorem class?_of_lt_runLength {i : Nat}
    (less : i < runLength (line.drop col)) :
    line.class? (col + i) = line.class? col := by
  have same := map_class_of_lt_runLength less
  rwa [← class?, ← class?, class?_drop, class?_drop] at same

theorem class?_behind_run (word : line.InWord col) :
    line.class? (col + runLength (line.drop col)) ≠ line.class? col := by
  obtain ⟨kind, -, here⟩ := word
  intro same
  obtain ⟨c, found, kindOf⟩ := Option.map_eq_some_iff.mp (same.trans here)
  rw [← List.getElem?_drop] at found
  have differs := class_ne_of_runLength found
  rw [kindOf, ← class?, class?_drop] at differs
  exact differs here

theorem isForemost_inWord (line : Line) :
    IsForemost (· ≤ ·) {col | line.InWord col}
      (line.findIdx? (!isBlank ·)) := by
  cases found : line.findIdx? (!isBlank ·) with
  | none =>
      intro col word
      obtain ⟨inside, solid⟩ := inWord_iff_getElem.mp word
      simpa [solid] using List.findIdx?_eq_none_iff.mp found _
        (List.getElem_mem inside)
  | some n =>
      obtain ⟨inside, hit, before⟩ := List.findIdx?_eq_some_iff_getElem.mp found
      refine ⟨inWord_iff_getElem.mpr ⟨inside, by simpa using hit⟩,
        fun col word => ?_⟩
      obtain ⟨_, solid⟩ := inWord_iff_getElem.mp word
      refine Nat.le_of_not_lt fun less => ?_
      simpa [solid] using before col less

theorem isLeast_indentation (line : Line) :
    IsLeast {col | line.InWord col} line.indentation ∨
      {col | line.InWord col} = ∅ ∧ line.indentation = 0 :=
  line.isForemost_inWord.isLeast_getD 0

theorem indentation_le_pred (line : Line) :
    line.indentation ≤ line.length - 1 := by
  rcases line.isLeast_indentation with least | ⟨-, leftmost⟩
  · exact Nat.le_sub_one_of_lt (InWord.lt_length least.1)
  · rw [leftmost]
    exact Nat.zero_le _

theorem isForemost_startsWord (line : Line) :
    IsForemost (· ≤ ·) {col | line.StartsWord col}
      (line.findIdx? (!isBlank ·)) := by
  have words := line.isForemost_inWord
  refine words.of_subset (fun col starts => starts.inWord) fun first found => ?_
  rw [found] at words
  refine words.1.startsWord fun i next word => ?_
  have least := words.2 i word
  omega

theorem isForemost_firstStart? (line : Line) :
    IsForemost (· ≤ ·) {col | line.IsStop col} (firstStart? line) := by
  unfold firstStart?
  cases line with
  | nil => exact ⟨Or.inr ⟨rfl, rfl⟩, fun col _ => Nat.zero_le col⟩
  | cons c rest =>
      exact (isForemost_startsWord (c :: rest)).congr fun col => by
        simp [IsStop]

theorem isForemost_firstEnd? (line : Line) :
    IsForemost (· ≤ ·) {col | line.EndsWord col} (firstEnd? line) := by
  have words := line.isForemost_inWord
  rw [firstEnd?_eq]
  cases found : line.findIdx? (!isBlank ·) with
  | none =>
      rw [found] at words
      exact fun col ends => words col ends.inWord
  | some n =>
      rw [found] at words
      obtain ⟨word, least⟩ := words
      have different := class?_behind_run word
      obtain ⟨m, length⟩ := Nat.exists_eq_add_one.mpr word.runLength_pos
      have last : n + runLength (line.drop n) - 1 = n + m := by omega
      obtain ⟨kind, solid, here⟩ := word
      rw [Option.map_some, last]
      refine ⟨⟨kind, solid, ?_, ?_⟩, ?_⟩
      · rw [class?_of_lt_runLength (by omega), here]
      · rwa [length, here] at different
      · intro col ends
        have above := least col ends.inWord
        obtain ⟨other, -, same, changes⟩ := ends
        refine Nat.le_of_not_lt fun less => changes ?_
        obtain ⟨i, rfl⟩ := Nat.exists_eq_add_of_le above
        rw [class?_of_lt_runLength (by omega)] at same
        rw [Nat.add_assoc, class?_of_lt_runLength (by omega), same]

theorem lastWord?_eq (line : Line) :
    lastWord? line = (firstEnd? line.reverse).map fun col =>
      line.length - 1 - col := by
  have short := (List.dropWhile_suffix isBlank (l := line.reverse)).length_le
  unfold lastWord? firstEnd?
  cases same : line.reverse.dropWhile isBlank with
  | nil => rfl
  | cons c rest =>
      have positive := runLength_pos (List.cons_ne_nil c rest)
      have within := runLength_le (c :: rest)
      rw [same, List.length_reverse] at short
      simp only [List.length_reverse, Option.map_some, Option.some.injEq]
      omega

/-- Read from its end, a line has the ends of its words where they start. -/
theorem endsWord_reverse_iff (inside : col < line.length) :
    EndsWord line.reverse (line.length - 1 - col) ↔ line.StartsWord col := by
  unfold EndsWord StartsWord
  rw [class?_reverse inside]
  cases col with
  | zero =>
      have last : line.reverse.length ≤ line.length - 1 - 0 + 1 := by
        rw [List.length_reverse]
        omega
      have none : class? line.reverse (line.length - 1 - 0 + 1) = none := by
        rw [class?, List.getElem?_eq_none last, Option.map_none]
      rw [none]
      simp
  | succ i =>
      have next : line.length - 1 - (i + 1) + 1 = line.length - 1 - i := by
        omega
      rw [next, class?_reverse (by omega)]
      simp

theorem isLast_lastWord? (line : Line) :
    IsForemost (· ≥ ·) {col | line.StartsWord col} (lastWord? line) := by
  rw [lastWord?_eq]
  refine (isForemost_firstEnd? line.reverse).map (fun less =>
    Nat.sub_le_sub_left less _)
      |>.congr fun col => ?_
  constructor
  · intro starts
    have inside := starts.inWord.lt_length
    exact ⟨line.length - 1 - col, (endsWord_reverse_iff inside).mpr starts,
      by dsimp only; omega⟩
  · rintro ⟨mirrored, ends, rfl⟩
    have inside := ends.inWord.lt_length
    rw [List.length_reverse] at inside
    have same : line.length - 1 - (line.length - 1 - mirrored) = mirrored := by
      omega
    have before : line.length - 1 - mirrored < line.length := by omega
    exact (endsWord_reverse_iff before).mp (by rwa [same])

theorem isLast_lastStart? (line : Line) :
    IsForemost (· ≥ ·) {col | line.IsStop col} (lastStart? line) := by
  unfold lastStart?
  cases line with
  | nil =>
      refine ⟨Or.inr ⟨rfl, rfl⟩, ?_⟩
      rintro col (starts | ⟨-, rfl⟩)
      · exact absurd starts.inWord.lt_length (Nat.not_lt_zero col)
      · exact Nat.le_refl 0
  | cons c rest =>
      exact (isLast_lastWord? (c :: rest)).congr fun col => by simp [IsStop]

/-! On from a column of a line, and back from it. -/

theorem isForemost_of_drop {kind : Line → Nat → Prop} {n : Nat}
    {answer : Option Nat}
    (moved : ∀ col, kind (line.drop n) col ↔ kind line (n + col))
    (foremost : IsForemost (· ≤ ·) {col | kind (line.drop n) col} answer) :
    IsForemost (· ≤ ·) {col | n ≤ col ∧ kind line col}
      (answer.map (n + ·)) := by
  refine (foremost.map fun less =>
    Nat.add_le_add_left less n).congr fun col => ?_
  constructor
  · rintro ⟨above, here⟩
    obtain ⟨i, rfl⟩ := Nat.exists_eq_add_of_le above
    exact ⟨i, (moved i).mpr here, rfl⟩
  · rintro ⟨i, here, rfl⟩
    exact ⟨Nat.le_add_right n i, (moved i).mp here⟩

theorem isForemost_endsWord_from (line : Line) (n : Nat) :
    IsForemost (· ≤ ·) {col | n ≤ col ∧ line.EndsWord col}
      ((firstEnd? (line.drop n)).map (n + ·)) := by
  refine isForemost_of_drop (fun col => ?_) (isForemost_firstEnd? (line.drop n))
  simp only [EndsWord, class?_drop, Nat.add_assoc]

theorem isForemost_inWord_from (line : Line) (n : Nat) :
    IsForemost (· ≤ ·) {col | n ≤ col ∧ line.InWord col}
      (((line.drop n).findIdx? (!isBlank ·)).map (n + ·)) := by
  refine isForemost_of_drop (fun col => ?_) (isForemost_inWord (line.drop n))
  simp only [InWord, class?_drop]

theorem startsWord_take_iff (line : Line) (n col : Nat) :
    StartsWord (line.take n) col ↔ col < n ∧ line.StartsWord col := by
  constructor
  · intro starts
    have inside := starts.inWord.lt_length
    have less : col < n :=
      Nat.lt_of_lt_of_le inside (List.length_take_le n line)
    obtain ⟨kind, solid, here, begins⟩ := starts
    rw [class?_take line less] at here
    refine ⟨less, kind, solid, here, fun before next => ?_⟩
    rw [← class?_take line (n := n) (by omega)]
    exact begins before next
  · rintro ⟨less, kind, solid, here, begins⟩
    refine ⟨kind, solid, by rwa [class?_take line less], fun before next => ?_⟩
    rw [class?_take line (by omega)]
    exact begins before next

theorem isLast_startsWord_before (line : Line) (n : Nat) :
    IsForemost (· ≥ ·) {col | col < n ∧ line.StartsWord col}
      (lastWord? (line.take n)) :=
  (isLast_lastWord? (line.take n)).congr fun col =>
    (startsWord_take_iff line n col).symm

theorem wordLength_of_inWord (word : line.InWord col) :
    wordLength (line.drop col) = runLength (line.drop col) := by
  obtain ⟨inside, solid⟩ := inWord_iff_getElem.mp word
  simp [wordLength, List.head?_drop, inside, solid]

theorem wordLength_of_not_inWord {text : Line} (outside : ¬ text.InWord col) :
    wordLength (text.drop col) = 0 := by
  refine if_pos ?_
  rw [List.head?_drop]
  cases found : text[col]? with
  | none => rfl
  | some c =>
      obtain ⟨inside, rfl⟩ := List.getElem?_eq_some_iff.mp found
      refine Bool.of_not_eq_false fun solid => outside ?_
      exact inWord_iff_getElem.mpr ⟨inside, by simpa using solid⟩

theorem not_startsWord_of_lt_run {next : Nat} (further : col < next)
    (within : next < col + runLength (line.drop col)) :
    ¬ line.StartsWord next := by
  obtain ⟨i, rfl⟩ := Nat.exists_eq_add_of_lt further
  rintro ⟨kind, -, here, begins⟩
  rw [Nat.add_assoc, class?_of_lt_runLength (by omega)] at here
  refine begins (col + i) rfl ?_
  rw [class?_of_lt_runLength (by omega), here]

theorem startsWord_behind_run (word : line.InWord col)
    (next : line.InWord (col + runLength (line.drop col))) :
    line.StartsWord (col + runLength (line.drop col)) := by
  have different := class?_behind_run word
  obtain ⟨kind, solid, here⟩ := next
  refine ⟨kind, solid, here, fun before last same => ?_⟩
  obtain ⟨i, rfl⟩ := Nat.exists_eq_add_of_le (show col ≤ before by
    have positive := word.runLength_pos
    omega)
  rw [class?_of_lt_runLength (by omega)] at same
  exact different (here.trans same.symm)

theorem isForemost_startsWord_from {start : Nat} (further : col ≤ start)
    (between : ∀ next, col < next → line.StartsWord next → start ≤ next)
    (begins : line.InWord start → col < start ∧ line.StartsWord start) :
    IsForemost (· ≤ ·) {next | col < next ∧ line.StartsWord next}
      (((line.drop start).findIdx? (!isBlank ·)).map (start + ·)) := by
  have words := line.isForemost_inWord_from start
  refine words.of_subset ?_ fun first found => ?_
  · rintro next ⟨beyond, starts⟩
    exact ⟨between next beyond starts, starts.inWord⟩
  · rw [found] at words
    obtain ⟨⟨above, inside⟩, least⟩ := words
    rcases Nat.eq_or_lt_of_le above with rfl | beyond
    · exact begins inside
    · refine ⟨by omega, inside.startsWord fun before next other => ?_⟩
      have earlier := least before ⟨by omega, other⟩
      omega

/--
The next start of a word: behind the word at a column, where the next one is.
-/
theorem isForemost_startsWord_behind (line : Line) (col : Nat) :
    let behind := col + wordLength (line.drop col)
    IsForemost (· ≤ ·) {next | col < next ∧ line.StartsWord next}
      (((line.drop behind).findIdx? (!isBlank ·)).map (behind + ·)) := by
  by_cases word : line.InWord col
  · have positive := word.runLength_pos
    dsimp only
    rw [wordLength_of_inWord word]
    refine isForemost_startsWord_from (by omega) (fun next further starts => ?_)
      fun inside => ?_
    · refine Nat.le_of_not_lt fun within => ?_
      exact not_startsWord_of_lt_run further within starts
    · exact ⟨by omega, startsWord_behind_run word inside⟩
  · dsimp only
    rw [wordLength_of_not_inWord word, Nat.add_zero]
    refine isForemost_startsWord_from (Nat.le_refl col)
      (fun next further _ => ?_) fun inside => ?_
    · exact Nat.le_of_lt further
    · exact absurd inside word

end Line

end ModalEditing
