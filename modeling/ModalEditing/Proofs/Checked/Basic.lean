import ModalEditing.Checked

namespace ModalEditing

namespace Checked

/-!
The domains of the partial operations, with what they result in there, and
bounds that fit them.
-/

/--
The most lines of a buffer. This is the limit of the signed half word in which a
substitution counts the lines that it changes (`bump`). All other numbers are in
whole words, and far below their limit for a buffer of this size.
-/
def maxLines : Nat := maxHalfWord

/--
The longest line, and the longest stored text: memory has room for as many
copies of it as the largest count, also when each character is a line.
-/
def maxLength : Nat := 17592186044416

theorem behind_fits {col : Nat} (short : col ≤ maxLength) :
    col + 1 ≤ Text.maxWord :=
  Nat.le_trans (Nat.succ_le_succ short) (by decide)

theorem bind_eq_ok_iff {α β : Type} {x : Checked α} {f : α → Checked β}
    {b : β} : x >>= f = .ok b ↔ ∃ a, x = .ok a ∧ f a = .ok b := by
  cases x with
  | error fault => simp [bind, Except.bind]
  | ok a => simp [bind, Except.bind]

theorem add_eq_ok_iff {m n sum : Nat} :
    add m n = .ok sum ↔ m + n ≤ Text.maxWord ∧ m + n = sum := by
  unfold add
  split
  · simp [*, pure, Except.pure]
  · simp [*, throw, throwThe, MonadExceptOf.throw]

theorem sub_eq_ok_iff {m n difference : Nat} :
    sub m n = .ok difference ↔ n ≤ m ∧ m - n = difference := by
  unfold sub
  split
  · simp [*, pure, Except.pure]
  · simp [*, throw, throwThe, MonadExceptOf.throw]

theorem add_eq {m n : Nat} (fits : m + n ≤ Text.maxWord) :
    add m n = pure (m + n) :=
  if_pos fits

theorem addUpTo_eq {m n : Nat} (fits : m + n ≤ Text.maxWord) :
    addUpTo m n = m + n :=
  Nat.min_eq_left fits

theorem min_addUpTo {m n bound : Nat} (small : bound ≤ Text.maxWord) :
    min (addUpTo m n) bound = min (m + n) bound := by
  unfold addUpTo
  omega

theorem sub_eq {m n : Nat} (less : n ≤ m) : sub m n = pure (m - n) :=
  if_pos less

theorem rem_eq {m n : Nat} (positive : 0 < n) : rem m n = pure (m % n) :=
  if_neg (Nat.ne_of_gt positive)

theorem bump_eq {n : Nat} (less : n < maxHalfWord) : bump n = pure (n + 1) :=
  if_pos less

theorem reserve_eq {count bytes : Nat} (fits : count * bytes ≤ maxBytes) :
    reserve count bytes = pure () :=
  if_pos fits

variable {α : Type} {items : List α}

theorem item_eq {i : Nat} {x : α} (found : items[i]? = some x) :
    item items i = pure x := by
  simp [item, found]

theorem slice_eq {start stop : Nat} (ordered : start ≤ stop)
    (inside : stop ≤ items.length) :
    slice items start stop = pure ((items.take stop).drop start) :=
  if_pos ⟨ordered, inside⟩

theorem splice_eq {start stop : Nat} (ordered : start ≤ stop)
    (inside : stop ≤ items.length) (others : List α) :
    splice items start stop others =
      pure (items.take start ++ others ++ items.drop stop) :=
  if_pos ⟨ordered, inside⟩

theorem remove_eq {i : Nat} {x : α} (found : items[i]? = some x) :
    remove items i = pure (x, items.eraseIdx i) := by
  simp [remove, item_eq found]

theorem mapM_item_range' {start n : Nat} (inside : start + n ≤ items.length) :
    (List.range' start n).mapM (item items) =
      pure ((items.drop start).take n) := by
  induction n generalizing start with
  | zero => simp
  | succ n ih =>
      have found : items[start]? = some items[start] :=
        List.getElem?_eq_getElem (by omega)
      have next : start + 1 + n ≤ items.length := by omega
      rw [List.range'_succ, List.mapM_cons, item_eq found, ih next,
        List.drop_eq_getElem_cons (show start < items.length by omega)]
      rfl

theorem take_min_length (n : Nat) :
    items.take (min n items.length) = items.take n := by
  rcases Nat.le_total n items.length with inside | behind
  · rw [Nat.min_eq_left inside]
  · rw [Nat.min_eq_right behind, List.take_length,
      List.take_of_length_le behind]

theorem drop_min_length (n : Nat) :
    items.drop (min n items.length) = items.drop n := by
  rcases Nat.le_total n items.length with inside | behind
  · rw [Nat.min_eq_left inside]
  · rw [Nat.min_eq_right behind, List.drop_length,
      List.drop_of_length_le behind]

theorem drop_take_min_length (start stop : Nat) :
    (items.take (min (max start stop) items.length)).drop
        (min start items.length) =
      (items.drop start).take (stop - start) := by
  have gap : max start stop - start = stop - start := by omega
  rw [take_min_length, List.drop_take, drop_min_length]
  rcases Nat.le_total start items.length with inside | behind
  · rw [Nat.min_eq_left inside, gap]
  · simp [List.drop_of_length_le behind]

theorem drop_take_add {n back ahead : Nat} (inside : n ≤ items.length)
    (less : back ≤ n) :
    (items.take (n + ahead)).drop (n - back) =
      ((items.take n).reverse.take back).reverse ++
        (items.drop n).take ahead := by
  have size : (items.take n).length = n := List.length_take_of_le inside
  rw [List.take_add, List.drop_append_of_le_length (by omega),
    List.reverse_take, List.reverse_reverse, List.length_reverse, size]

theorem slice_clamped (start stop : Nat) :
    slice items (min start items.length) (min (max start stop) items.length) =
      pure ((items.drop start).take (stop - start)) := by
  rw [slice_eq (by omega) (Nat.min_le_right _ _), drop_take_min_length]

theorem splice_clamped (start stop : Nat) :
    splice items (min start items.length)
        (min (max start stop) items.length) [] =
      pure (items.take start ++ items.drop (max start stop)) := by
  rw [splice_eq (by omega) (Nat.min_le_right _ _), take_min_length,
    drop_min_length, List.append_nil]

/-! Loops. -/

theorem findM?_eq {check : α → Checked Bool} {p : α → Bool}
    (safe : ∀ x ∈ items, check x = pure (p x)) :
    items.findM? check = pure (items.find? p) := by
  induction items with
  | nil => rfl
  | cons x rest ih =>
      obtain ⟨here, others⟩ := List.forall_mem_cons.mp safe
      rw [List.findM?, here, pure_bind, List.find?_cons]
      cases p x with
      | true => rfl
      | false => exact ih others

theorem findSomeM?_eq {β : Type} {look : α → Checked (Option β)}
    {f : α → Option β} (safe : ∀ x ∈ items, look x = pure (f x)) :
    items.findSomeM? look = pure (items.findSome? f) := by
  induction items with
  | nil => rfl
  | cons x rest ih =>
      obtain ⟨here, others⟩ := List.forall_mem_cons.mp safe
      rw [List.findSomeM?, here, pure_bind, List.findSome?_cons]
      cases f x with
      | some b => rfl
      | none => exact ih others

@[simp] theorem orTry_pure (first second : Option α) :
    orTry (pure first) (pure second) = pure (first.or second) := by
  cases first <;> rfl

/-! At a known place of a list. -/

variable {above below : List α} {x y : α} {n : Nat}

theorem item_at (size : above.length = n) :
    item (above ++ x :: below) n = pure x :=
  item_eq (by simp [← size])

theorem set_at (size : above.length = n) (y : α) :
    (above ++ x :: below).set n y = above ++ y :: below := by
  simp [← size]

theorem remove_below (size : above.length = n) :
    remove (above ++ x :: y :: below) (n + 1) =
      pure (y, above ++ x :: below) := by
  subst size
  rw [remove_eq (x := y) (by simp)]
  simp [List.eraseIdx_append_of_length_le]

theorem splice_below (size : above.length = n) (others : List α) :
    splice (above ++ x :: below) (n + 1) (n + 1) others =
      pure (above ++ x :: (others ++ below)) := by
  subst size
  rw [splice_eq (Nat.le_refl _) (by simp)]
  simp [List.take_append, List.drop_append, List.take_of_length_le,
    List.drop_of_length_le]

end Checked

end ModalEditing
