import Mathlib.Data.List.Sort
import ModalEditing.Motion.Column

namespace ModalEditing.Line

variable {text : Line} {target : Char} {col count found : Nat}

/-!
The columns at which a character stands, in order, and the search for one of
them by its number. A column is told by how often the character stands before
it, so a part of a line has as many columns as occurrences. A search ahead looks
at what is right of a column, and a search back at what is left of it, which is
the same on the line read from its end.
-/

theorem mem_columnsOf :
    col ∈ columnsOf target text ↔ text[col]? = some target := by
  simp only [columnsOf, List.mem_map, List.mem_filter, beq_iff_eq, Prod.exists]
  constructor
  · rintro ⟨c, n, ⟨member, rfl⟩, rfl⟩
    exact List.mem_zipIdx_iff_getElem?.mp member
  · intro found
    exact ⟨target, col, ⟨List.mem_zipIdx_iff_getElem?.mpr found, rfl⟩, rfl⟩

theorem lt_length_of_mem_columnsOf (member : col ∈ columnsOf target text) :
    col < text.length :=
  (List.getElem?_eq_some_iff.mp (mem_columnsOf.mp member)).1

theorem sorted_columnsOf (target : Char) (line : Line) :
    (columnsOf target line).Pairwise (· < ·) := by
  have ordered : (line.zipIdx.map (·.2)).Pairwise (· < ·) := by
    rw [List.zipIdx_map_snd]
    exact List.pairwise_lt_range' ..
  exact List.pairwise_map.mpr ((List.pairwise_map.mp ordered).filter _)

theorem columnsOf_append (target : Char) (first second : Line) :
    columnsOf target (first ++ second) =
      columnsOf target first ++
        (columnsOf target second).map (first.length + ·) := by
  have shifted : second.zipIdx first.length =
      second.zipIdx.map fun (c, n) => (c, first.length + n) :=
    List.zipIdx_eq_map_add
  simp only [columnsOf, List.zipIdx_append, List.filter_append, List.map_append]
  rw [Nat.zero_add, shifted, List.filter_map, List.map_map, List.map_map]
  rfl

theorem columnsOf_cons (target c : Char) (rest : Line) :
    columnsOf target (c :: rest) =
      (if c = target then [0] else []) ++
        (columnsOf target rest).map (1 + ·) := by
  have first : columnsOf target [c] = if c = target then [0] else [] := by
    by_cases same : c = target <;> simp [columnsOf, same]
  rw [← first]
  exact columnsOf_append target [c] rest

theorem length_columnsOf (target : Char) (line : Line) :
    (columnsOf target line).length = line.count target := by
  induction line with
  | nil => rfl
  | cons c rest ih =>
      rw [columnsOf_cons, List.length_append, List.length_map, ih,
        List.count_cons]
      by_cases same : c = target
      · simp [same, Nat.add_comm]
      · simp [same]

theorem columnsOf_reverse (target : Char) (line : Line) :
    columnsOf target line.reverse =
      (columnsOf target line).reverse.map (line.length - 1 - ·) := by
  induction line with
  | nil => rfl
  | cons c rest ih =>
      have place (i : Nat) : rest.length - 1 - i = rest.length - (1 + i) :=
        Nat.sub_sub _ _ _
      rw [List.reverse_cons, columnsOf_append, columnsOf_cons target c [],
        columnsOf_cons, ih]
      by_cases same : c = target <;> simp [same, place, Function.comp_def]

theorem columnsOf_take (target : Char) (line : Line) (col : Nat) :
    columnsOf target (line.take col) =
      (columnsOf target line).filter (· < col) := by
  refine (sorted_columnsOf _ _).eq_of_mem_iff
    ((sorted_columnsOf _ _).filter _) fun i => ?_
  rw [List.mem_filter, mem_columnsOf, mem_columnsOf, List.getElem?_take]
  by_cases before : i < col <;> simp [before]

theorem columnsOf_drop (target : Char) (line : Line) (col : Nat) :
    (columnsOf target (line.drop col)).map (col + ·) =
      (columnsOf target line).filter (col ≤ ·) := by
  have sorted :
      ((columnsOf target (line.drop col)).map (col + ·)).Pairwise (· < ·) :=
    List.pairwise_map.mpr ((sorted_columnsOf _ _).imp fun less =>
      Nat.add_lt_add_left less col)
  refine sorted.eq_of_mem_iff ((sorted_columnsOf _ _).filter _) fun i => ?_
  simp only [List.mem_map, List.mem_filter, mem_columnsOf, List.getElem?_drop,
    decide_eq_true_iff]
  constructor
  · rintro ⟨i, stands, rfl⟩
    exact ⟨stands, Nat.le_add_right col i⟩
  · rintro ⟨stands, behind⟩
    obtain ⟨i, rfl⟩ := Nat.exists_eq_add_of_le behind
    exact ⟨i, stands, rfl⟩

/--
The number of a column among those of its character is how often that one stands
before it.
-/
theorem getElem?_columnsOf :
    (columnsOf target text)[count]? = some col ↔
      text[col]? = some target ∧ (text.take col).count target = count := by
  have listed (stands : text[col]? = some target) :
      (columnsOf target text)[(text.take col).count target]? = some col := by
    have length : (text.take col).length = col :=
      List.length_take_of_le
        (Nat.le_of_lt (List.getElem?_eq_some_iff.mp stands).1)
    have whole := columnsOf_append target (text.take col) (text.drop col)
    rw [List.take_append_drop, List.drop_eq_getElem?_toList_append,
      stands] at whole
    rw [whole, ← length_columnsOf, List.getElem?_append_right (Nat.le_refl _),
      Nat.sub_self]
    simp [columnsOf_cons, length]
  constructor
  · intro found
    have stands := mem_columnsOf.mp (List.mem_of_getElem? found)
    obtain ⟨within, -⟩ := List.getElem?_eq_some_iff.mp found
    have once := (sorted_columnsOf target text).nodup
    exact ⟨stands,
      ((List.getElem?_inj within once).mp
        (found.trans (listed stands).symm)).symm⟩
  · rintro ⟨stands, rfl⟩
    exact listed stands

/-! The search for a character by the number of its occurrence. -/

theorem findForward?_eq (line : Line) (col : Nat) (target : Char)
    (count : Nat) :
    line.findForward? col target count =
      (columnsOf target (line.drop (col + 1)))[count - 1]?.map
        (col + 1 + ·) := by
  rw [← List.getElem?_map, columnsOf_drop]
  rfl

theorem findBackward?_eq (line : Line) (col : Nat) (target : Char)
    (count : Nat) :
    line.findBackward? col target count =
      (columnsOf target (line.take col)).reverse[count - 1]? := by
  rw [columnsOf_take]
  rfl

theorem count_through {gap : Nat} (stands : text[col + gap]? = some target) :
    ((text.take (col + gap + 1)).drop col).count target =
      ((text.drop col).take gap).count target + 1 := by
  have length : col + gap + 1 - col = gap + 1 := by omega
  rw [List.drop_take, length, List.take_add_one, List.getElem?_drop, stands,
    Option.toList_some, List.count_append, List.count_singleton_self]

theorem findForward?_eq_some_iff :
    text.findForward? col target count = some found ↔
      col < found ∧ text[found]? = some target ∧
        ((text.take (found + 1)).drop (col + 1)).count target =
          max count 1 := by
  rw [findForward?_eq, Option.map_eq_some_iff]
  constructor
  · rintro ⟨gap, listed, rfl⟩
    obtain ⟨stands, number⟩ := getElem?_columnsOf.mp listed
    rw [List.getElem?_drop] at stands
    refine ⟨by omega, stands, ?_⟩
    rw [count_through stands]
    omega
  · rintro ⟨ahead, stands, number⟩
    have next : col + 1 ≤ found := ahead
    obtain ⟨gap, rfl⟩ := Nat.exists_eq_add_of_le next
    rw [count_through stands] at number
    refine ⟨gap, getElem?_columnsOf.mpr ⟨?_, by omega⟩, rfl⟩
    rw [List.getElem?_drop]
    exact stands

theorem findForward?_eq_none_iff :
    text.findForward? col target count = none ↔
      (text.drop (col + 1)).count target < max count 1 := by
  rw [findForward?_eq, Option.map_eq_none_iff, List.getElem?_eq_none_iff,
    length_columnsOf]
  omega

theorem findBackward?_eq_findForward? (inside : col < text.length)
    (target : Char) (count : Nat) :
    text.findBackward? col target count =
      (findForward? text.reverse (text.length - 1 - col) target count).map
        (text.length - 1 - ·) := by
  have length : (text.take col).length = col :=
    List.length_take_of_le (Nat.le_of_lt inside)
  have left : text.length - 1 - col + 1 = text.length - col := by omega
  rw [findBackward?_eq, findForward?_eq, left, ← List.reverse_take,
    columnsOf_reverse, length, List.getElem?_map, Option.map_map,
    Option.map_map]
  cases found : (columnsOf target (text.take col)).reverse[count - 1]? with
  | none => rfl
  | some i =>
      have before :=
        lt_length_of_mem_columnsOf
          (List.mem_reverse.mp (List.mem_of_getElem? found))
      refine congrArg some ?_
      dsimp only [Function.comp_apply]
      omega

/--
A search for a character counts its occurrences. From a column of a line the one
ahead finds a column exactly if the character stands there for as many times as
were asked for, no less than one, and finds none exactly if it does not stand
ahead that often. The search back is its mirror image.
-/
theorem characters_found_by_count (inside : col < text.length) (target : Char)
    (count : Nat) :
    (∀ found, text.findForward? col target count = some found ↔
        col < found ∧ text[found]? = some target ∧
          ((text.take (found + 1)).drop (col + 1)).count target = max count 1) ∧
      (text.findForward? col target count = none ↔
        (text.drop (col + 1)).count target < max count 1) ∧
      text.findBackward? col target count =
        (findForward? text.reverse (text.length - 1 - col) target count).map
          (text.length - 1 - ·) :=
  ⟨fun _ => findForward?_eq_some_iff, findForward?_eq_none_iff,
    findBackward?_eq_findForward? inside target count⟩

/--
From the third comma of a line there are two ahead, and the second one back is
the first.
-/
theorem characters_found_around_third_comma :
    let text : Line := [',', 'a', ',', ',', 'b', ',', ',']
    3 < text.length ∧
      findForward? text 3 ',' 2 = some 6 ∧ findForward? text 3 ',' 3 = none ∧
      findBackward? text 3 ',' 2 = some 0 := by
  intro text
  have inside : 3 < text.length := by decide
  obtain ⟨found, -, mirrored⟩ := characters_found_by_count inside ',' 2
  obtain ⟨-, absent, -⟩ := characters_found_by_count inside ',' 3
  exact ⟨inside, (found 6).mpr (by decide), absent.mpr (by decide),
    mirrored.trans (by decide)⟩

end ModalEditing.Line
