import ModalEditing.Proofs.Motion.Columns
import ModalEditing.Proofs.Motion.OnLine

namespace ModalEditing

namespace Line

variable {text : Line} {target quote : Char} {columns before behind : List Nat}
  {col opening closing i : Nat}

/-!
The quotes of a line and the pairs that neighbours among them make. A column
between two quotes is inside of that pair; one that holds a quote opens or
closes a pair by the number of quotes before it.
-/

theorem columnsOf_eq_columnsFrom (target : Char) (text : Line) :
    columnsOf target text =
      text.columnsFrom (fun col => text[col]? = some target) 0 := by
  have sorted :
      (text.columnsFrom (fun col => text[col]? = some target) 0).Pairwise
        (· < ·) :=
    (List.pairwise_lt_range' ..).filter _
  refine (sorted_columnsOf target text).eq_of_mem_iff sorted fun col => ?_
  rw [mem_columnsOf, mem_columnsFrom]
  refine ⟨fun found => ⟨Nat.zero_le col, ?_, found⟩, fun listed => listed.2.2⟩
  exact (List.getElem?_eq_some_iff.mp found).1

/-! Columns in order, taken apart at one of them or between two. -/

theorem filter_lt_append (below : ∀ n ∈ before, n < col)
    (above : ∀ n ∈ behind, col ≤ n) :
    (before ++ behind).filter (· < col) = before := by
  have kept : before.filter (· < col) = before :=
    List.filter_eq_self.mpr fun n member => decide_eq_true (below n member)
  have dropped : behind.filter (· < col) = [] :=
    List.filter_eq_nil_iff.mpr fun n member => by simpa using above n member
  rw [List.filter_append, kept, dropped, List.append_nil]

theorem find?_lt_append (below : ∀ n ∈ before, n ≤ col)
    (above : ∀ n ∈ behind, col < n) :
    (before ++ behind).find? (col < ·) = behind.head? := by
  have none : before.find? (col < ·) = none :=
    List.find?_eq_none.mpr fun n member => by simpa using below n member
  rw [List.find?_append, none, Option.none_or]
  cases behind with
  | nil => rfl
  | cons n rest =>
      exact List.find?_cons_of_pos (decide_eq_true (above n List.mem_cons_self))

theorem exists_split_between (sorted : columns.Pairwise (· < ·))
    (absent : col ∉ columns) :
    ∃ before behind, columns = before ++ behind ∧ (∀ n ∈ before, n < col) ∧
      ∀ n ∈ behind, col < n := by
  induction columns with
  | nil => exact ⟨[], [], rfl, by simp, by simp⟩
  | cons first rest ih =>
      obtain ⟨above, others⟩ := List.pairwise_cons.mp sorted
      obtain ⟨different, absent⟩ := not_or.mp (mt List.mem_cons.mpr absent)
      rcases Nat.lt_or_ge first col with less | greater
      · obtain ⟨before, behind, rfl, below, higher⟩ := ih others absent
        exact ⟨first :: before, behind, rfl,
          List.forall_mem_cons.mpr ⟨less, below⟩, higher⟩
      · have less : col < first := Nat.lt_of_le_of_ne greater different
        refine ⟨[], first :: rest, rfl, by simp,
          List.forall_mem_cons.mpr ⟨less, ?_⟩⟩
        exact fun n member => Nat.lt_trans less (above n member)

theorem exists_neighbours (sorted : columns.Pairwise (· < ·))
    (first : columns[i]? = some opening)
    (second : columns[i + 1]? = some closing) :
    ∃ before behind, columns = before ++ opening :: closing :: behind ∧
      before.length = i ∧
      (∀ n ∈ before, n < opening) ∧ opening < closing ∧ ∀ n ∈ behind,
        closing < n := by
  obtain ⟨inside, rfl⟩ := List.getElem?_eq_some_iff.mp first
  obtain ⟨inside', rfl⟩ := List.getElem?_eq_some_iff.mp second
  have split : columns =
      columns.take i ++
        columns[i] :: columns[i + 1] :: columns.drop (i + 1 + 1) := by
    rw [← List.drop_eq_getElem_cons, ← List.drop_eq_getElem_cons,
      List.take_append_drop]
  have ordered := sorted
  rw [split] at ordered
  obtain ⟨-, rest, apart⟩ := List.pairwise_append.mp ordered
  obtain ⟨next, rest⟩ := List.pairwise_cons.mp rest
  exact ⟨_, _, split, List.length_take_of_le (Nat.le_of_lt inside),
    fun n member => apart n member _ List.mem_cons_self,
    next _ List.mem_cons_self, (List.pairwise_cons.mp rest).1⟩

theorem le_or_le_of_neighbours (sorted : columns.Pairwise (· < ·))
    (first : columns[i]? = some opening)
    (second : columns[i + 1]? = some closing) (member : col ∈ columns) :
    col ≤ opening ∨ closing ≤ col := by
  obtain ⟨before, behind, rfl, -, earlier, -, later⟩ :=
    exists_neighbours sorted first second
  simp only [List.mem_append, List.mem_cons] at member
  rcases member with other | rfl | rfl | other
  · exact Or.inl (Nat.le_of_lt (earlier col other))
  · exact Or.inl (Nat.le_refl col)
  · exact Or.inr (Nat.le_refl col)
  · exact Or.inr (Nat.le_of_lt (later col other))

/-! Pairs of quotes. -/

/--
A column is inside of a pair of neighbours, or it is the one of them that closes
or opens it.
-/
inductive Encloses (columns : List Nat) (col : Nat) : Nat → Nat → Prop where
  | between {i opening closing : Nat} (first : columns[i]? = some opening)
      (second : columns[i + 1]? = some closing) (after : opening < col)
      (ahead : col < closing) :
      Encloses columns col opening closing
  | closes {i opening : Nat} (first : columns[i]? = some opening)
      (second : columns[i + 1]? = some col) (odd : (i + 1) % 2 = 1) :
      Encloses columns col opening col
  | opens {i closing : Nat} (first : columns[i]? = some col)
      (second : columns[i + 1]? = some closing) (even : i % 2 = 0) :
      Encloses columns col col closing

/-- The pair that a column is in, as it is looked for. -/
def enclosing? (columns : List Nat) (col : Nat) : Option (Nat × Nat) :=
  let before := columns.filter (· < col)
  if col ∈ columns then
    if before.length % 2 = 1 then before.getLast?.map (·, col)
    else (columns.find? (col < ·)).map (col, ·)
  else around? columns col

def firstTwo? : List Nat → Option (Nat × Nat)
  | first :: second :: _ => some (first, second)
  | _ => none

theorem quotePair?_eq (text : Line) (col : Nat) (quote : Char) :
    text.quotePair? col quote =
      (enclosing? (columnsOf quote text) (min col (text.length - 1))).or
        (firstTwo? (columnsOf quote text)) := by
  simp only [quotePair?, enclosing?, mem_columnsOf, Option.orElse_eq_orElse,
    Option.orElse_eq_or]
  congr 1

theorem firstTwo?_eq_some_iff :
    firstTwo? columns = some (opening, closing) ↔
      columns[0]? = some opening ∧ columns[1]? = some closing := by
  match columns with
  | [] => simp [firstTwo?]
  | [only] => simp [firstTwo?]
  | first :: second :: rest => simp [firstTwo?]

theorem enclosing?_at (sorted : (before ++ col :: behind).Pairwise (· < ·)) :
    enclosing? (before ++ col :: behind) col =
      if before.length % 2 = 1 then before.getLast?.map (·, col)
      else behind.head?.map (col, ·) := by
  obtain ⟨-, rest, apart⟩ := List.pairwise_append.mp sorted
  obtain ⟨above, -⟩ := List.pairwise_cons.mp rest
  have below (n : Nat) (member : n ∈ before) : n < col :=
    apart n member col List.mem_cons_self
  have member : col ∈ before ++ col :: behind :=
    List.mem_append_right before List.mem_cons_self
  have lower : (before ++ col :: behind).filter (· < col) = before := by
    refine filter_lt_append below
      (List.forall_mem_cons.mpr ⟨Nat.le_refl col, fun n later => ?_⟩)
    exact Nat.le_of_lt (above n later)
  have upper : (before ++ col :: behind).find? (col < ·) = behind.head? := by
    rw [List.append_cons]
    refine find?_lt_append (fun n member => ?_) above
    rcases List.mem_append.mp member with earlier | here
    · exact Nat.le_of_lt (below n earlier)
    · exact Nat.le_of_eq (List.mem_singleton.mp here)
  simp only [enclosing?, if_pos member, lower, upper]

theorem enclosing?_between (below : ∀ n ∈ before, n < col)
    (above : ∀ n ∈ behind, col < n) :
    enclosing? (before ++ behind) col =
      before.getLast?.bind fun opening => behind.head?.map (opening, ·) := by
  have absent : col ∉ before ++ behind := by
    intro member
    rcases List.mem_append.mp member with earlier | later
    · exact Nat.lt_irrefl col (below col earlier)
    · exact Nat.lt_irrefl col (above col later)
  have lower :=
    filter_lt_append below fun n member => Nat.le_of_lt (above n member)
  have upper :=
    find?_lt_append (fun n member => Nat.le_of_lt (below n member)) above
  simp only [enclosing?, if_neg absent, around?, lower, upper]
  cases before.getLast? <;> cases behind.head? <;> rfl

theorem enclosing?_eq_some_iff (sorted : columns.Pairwise (· < ·)) :
    enclosing? columns col = some (opening, closing) ↔
      Encloses columns col opening closing := by
  constructor
  · intro pair
    by_cases member : col ∈ columns
    · obtain ⟨before, behind, rfl⟩ := List.append_of_mem member
      rw [enclosing?_at sorted] at pair
      split at pair
      · rename_i odd
        obtain ⟨_, last, same⟩ := Option.map_eq_some_iff.mp pair
        cases same
        obtain ⟨before, rfl⟩ := List.getLast?_eq_some_iff.mp last
        rw [List.length_append] at odd
        exact .closes (i := before.length) (by simp) (by simp) odd
      · rename_i even
        obtain ⟨_, first, same⟩ := Option.map_eq_some_iff.mp pair
        cases same
        obtain ⟨behind, rfl⟩ := List.head?_eq_some_iff.mp first
        exact .opens (i := before.length) (by simp) (by simp) (by omega)
    · obtain ⟨before, behind, rfl, below, above⟩ :=
        exists_split_between sorted member
      rw [enclosing?_between below above] at pair
      obtain ⟨_, last, rest⟩ := Option.bind_eq_some_iff.mp pair
      obtain ⟨_, first, same⟩ := Option.map_eq_some_iff.mp rest
      cases same
      obtain ⟨before, rfl⟩ := List.getLast?_eq_some_iff.mp last
      obtain ⟨behind, rfl⟩ := List.head?_eq_some_iff.mp first
      exact .between (i := before.length) (by simp) (by simp)
        (below _ (by simp)) (above _ (by simp))
  · intro pair
    cases pair with
    | between first second after ahead =>
        obtain ⟨before, behind, rfl, -, earlier, -, later⟩ :=
          exists_neighbours sorted first second
        rw [List.append_cons, enclosing?_between]
        · simp
        · rintro n member
          rcases List.mem_append.mp member with other | here
          · exact Nat.lt_trans (earlier n other) after
          · exact List.mem_singleton.mp here ▸ after
        · exact List.forall_mem_cons.mpr ⟨ahead, fun n member =>
            Nat.lt_trans ahead (later n member)⟩
    | closes first second odd =>
        obtain ⟨before, behind, rfl, rfl, -, -, -⟩ :=
          exists_neighbours sorted first second
        rw [List.append_cons] at sorted ⊢
        rw [enclosing?_at sorted, List.length_append,
          List.length_singleton, if_pos odd]
        simp
    | opens first second even =>
        obtain ⟨before, behind, rfl, rfl, -, -, -⟩ :=
          exists_neighbours sorted first second
        rw [enclosing?_at sorted, if_neg (by omega)]
        rfl

theorem Encloses.neighbours (pair : Encloses columns col opening closing) :
    ∃ i, columns[i]? = some opening ∧ columns[i + 1]? = some closing := by
  cases pair with
  | between first second _ _ => exact ⟨_, first, second⟩
  | closes first second _ => exact ⟨_, first, second⟩
  | opens first second _ => exact ⟨_, first, second⟩

theorem quotePair?_eq_some_iff :
    text.quotePair? col quote = some (opening, closing) ↔
      Encloses (columnsOf quote text) (min col (text.length - 1))
          opening closing ∨
        (∀ first second,
          ¬ Encloses (columnsOf quote text) (min col (text.length - 1))
            first second) ∧
          (columnsOf quote text)[0]? = some opening ∧
          (columnsOf quote text)[1]? = some closing := by
  have sorted := sorted_columnsOf quote text
  have absent
      (found :
        enclosing? (columnsOf quote text) (min col (text.length - 1)) = none)
      (first second : Nat) :
      ¬ Encloses (columnsOf quote text) (min col (text.length - 1))
        first second := by
    rw [← enclosing?_eq_some_iff sorted, found]
    exact nofun
  rw [quotePair?_eq, Option.or_eq_some_iff, enclosing?_eq_some_iff sorted,
    firstTwo?_eq_some_iff]
  refine or_congr_right (and_congr_left fun _ => ⟨absent, fun none => ?_⟩)
  exact Option.eq_none_iff_forall_ne_some.mpr fun (first, second) found =>
    none first second ((enclosing?_eq_some_iff sorted).mp found)

theorem neighbours_of_quotePair?
    (pair : text.quotePair? col quote = some (opening, closing)) :
    ∃ i, (columnsOf quote text)[i]? = some opening ∧
      (columnsOf quote text)[i + 1]? = some closing := by
  rcases quotePair?_eq_some_iff.mp pair with encloses | ⟨-, first, second⟩
  · exact encloses.neighbours
  · exact ⟨0, first, second⟩

theorem isSome_quotePair?_iff :
    (text.quotePair? col quote).isSome = true ↔
      2 ≤ (columnsOf quote text).length := by
  constructor
  · intro some
    obtain ⟨⟨opening, closing⟩, pair⟩ := Option.isSome_iff_exists.mp some
    obtain ⟨i, -, second⟩ := neighbours_of_quotePair? pair
    obtain ⟨inside, -⟩ := List.getElem?_eq_some_iff.mp second
    omega
  · intro several
    have first : firstTwo? (columnsOf quote text) =
        some ((columnsOf quote text)[0], (columnsOf quote text)[1]) :=
      firstTwo?_eq_some_iff.mpr ⟨List.getElem?_eq_getElem _,
        List.getElem?_eq_getElem _⟩
    rw [quotePair?_eq, first, Option.isSome_or]
    simp

theorem quotePair?_ordered
    (pair : text.quotePair? col quote = some (opening, closing)) :
    opening ∈ columnsOf quote text ∧ closing ∈ columnsOf quote text ∧
      opening < closing := by
  obtain ⟨i, first, second⟩ := neighbours_of_quotePair? pair
  obtain ⟨-, -, -, -, -, ordered, -⟩ :=
    exists_neighbours (sorted_columnsOf quote text) first second
  exact ⟨List.mem_of_getElem? first, List.mem_of_getElem? second, ordered⟩

theorem quotePair?_opens
    (pair : text.quotePair? col quote = some (opening, closing)) :
    text[opening]? = some quote :=
  mem_columnsOf.mp (quotePair?_ordered pair).1

/--
No quote is lost with what is between two neighbours, and those behind it move
up.
-/
theorem columnsOf_without (first : (columnsOf quote text)[i]? = some opening)
    (second : (columnsOf quote text)[i + 1]? = some closing) :
    columnsOf quote (text.take (opening + 1) ++ text.drop closing) =
      (columnsOf quote text).map fun col =>
        if col ≤ opening then col else col - (closing - (opening + 1)) := by
  obtain ⟨-, -, -, -, -, ordered, -⟩ :=
    exists_neighbours (sorted_columnsOf quote text) first second
  have inside := lt_length_of_mem_columnsOf (List.mem_of_getElem? second)
  have head : (text.take (opening + 1)).length = opening + 1 :=
    List.length_take_of_le (by omega)
  have front : (text.take closing).length = closing :=
    List.length_take_of_le (by omega)
  have left :
      columnsOf quote (text.take closing) =
        columnsOf quote (text.take (opening + 1)) := by
    rw [columnsOf_take, columnsOf_take]
    refine List.filter_congr fun col member => decide_eq_decide.mpr ?_
    have outside :=
      le_or_le_of_neighbours (sorted_columnsOf quote text) first second member
    omega
  have whole :
      columnsOf quote text = columnsOf quote (text.take (opening + 1)) ++
        (columnsOf quote (text.drop closing)).map (closing + ·) := by
    have parts := columnsOf_append quote (text.take closing) (text.drop closing)
    rwa [List.take_append_drop, left, front] at parts
  rw [whole, columnsOf_append, head, List.map_append, List.map_map]
  congr 1
  · refine (List.map_id _).symm.trans (List.map_congr_left fun col member => ?_)
    have before := lt_length_of_mem_columnsOf member
    exact (if_pos (by omega)).symm
  · refine List.map_congr_left fun col _ => ?_
    have behind : ¬ closing + col ≤ opening := by omega
    simp only [Function.comp_apply, if_neg behind]
    omega

end Line

end ModalEditing
