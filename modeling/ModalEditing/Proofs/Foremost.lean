import Mathlib.Data.Set.Image
import Mathlib.Order.Bounds.Defs
import ModalEditing.Position

namespace ModalEditing

variable {α β : Type} {ahead before : α → α → Prop} {places others : Set α}
  {p q : α} {answer other : Option α}

/-!
The first of some places in an order. Places that are looked through part by
part, one part after the other in the order, give the first place of all of
them.
-/

/-- An answer that is the first of some places, or none if there are none. -/
def IsForemost (before : α → α → Prop) (places : Set α) : Option α → Prop
  | some first => first ∈ places ∧ ∀ place ∈ places, before first place
  | none => ∀ place, place ∉ places

namespace IsForemost

theorem congr (foremost : IsForemost before places answer)
    (same : ∀ place, place ∈ others ↔ place ∈ places) :
    IsForemost before others answer := by
  rwa [Set.ext same]

theorem of_subset (foremost : IsForemost before places answer)
    (part : ∀ place ∈ others, place ∈ places)
    (found : ∀ first, answer = some first → first ∈ others) :
    IsForemost before others answer := by
  cases answer with
  | none => exact fun place member => foremost place (part place member)
  | some first =>
      exact ⟨found first rfl, fun place member =>
        foremost.2 place (part place member)⟩

theorem or (foremost : IsForemost before places answer)
    (next : IsForemost before others other)
    (apart : ∀ place ∈ places, ∀ later ∈ others, before place later) :
    IsForemost before (places ∪ others) (answer.or other) := by
  cases answer with
  | none =>
      refine next.congr fun place => ?_
      simp [foremost place]
  | some first =>
      obtain ⟨member, least⟩ := foremost
      refine ⟨Or.inl member, ?_⟩
      rintro place (here | later)
      · exact least place here
      · exact apart first member place later

theorem map {after : β → β → Prop} (foremost : IsForemost before places answer)
    {f : α → β}
    (monotone : ∀ {first second}, before first second →
      after (f first) (f second)) :
    IsForemost after (f '' places) (answer.map f) := by
  cases answer with
  | none =>
      rintro _ ⟨place, member, rfl⟩
      exact foremost place member
  | some first =>
      obtain ⟨member, least⟩ := foremost
      refine ⟨⟨first, member, rfl⟩, ?_⟩
      rintro _ ⟨place, here, rfl⟩
      exact monotone (least place here)

theorem head? (refl : ∀ place, before place place) {list : List α}
    (sorted : list.Pairwise before) :
    IsForemost before {place | place ∈ list} list.head? := by
  cases list with
  | nil => exact fun place => List.not_mem_nil
  | cons first rest =>
      refine ⟨List.mem_cons_self, fun place member => ?_⟩
      rcases List.mem_cons.mp member with rfl | later
      · exact refl place
      · exact List.rel_of_pairwise_cons sorted later

theorem getLast? (refl : ∀ place, before place place) {list : List α}
    (sorted : list.Pairwise fun earlier later => before later earlier) :
    IsForemost before {place | place ∈ list} list.getLast? := by
  rw [List.getLast?_eq_head?_reverse]
  exact (head? refl (List.pairwise_reverse.mpr sorted)).congr fun _ =>
    List.mem_reverse.symm

theorem findSome? {find : β → Option α} {part : β → Set α} {list : List β}
    (found : ∀ x ∈ list, IsForemost before (part x) (find x))
    (apart : list.Pairwise fun x y =>
      ∀ place ∈ part x, ∀ later ∈ part y, before place later) :
    IsForemost before {place | ∃ x ∈ list, place ∈ part x}
      (list.findSome? find) := by
  induction list with
  | nil => simp [IsForemost]
  | cons x rest ih =>
      obtain ⟨first, others⟩ := List.pairwise_cons.mp apart
      have here := found x List.mem_cons_self
      have below :=
        ih (fun y member => found y (List.mem_cons_of_mem x member)) others
      have either := here.or below fun place member later => by
        rintro ⟨y, listed, within⟩
        exact first y listed place member later within
      have step :
          (x :: rest).findSome? find = (find x).or (rest.findSome? find) := by
        rw [List.findSome?_cons]
        cases find x <;> rfl
      rw [step]
      exact either.congr fun place => by simp

theorem isLeast_getD [LE α] (foremost : IsForemost (· ≤ ·) places answer)
    (p : α) :
    IsLeast places (answer.getD p) ∨ places = ∅ ∧ answer.getD p = p := by
  cases answer with
  | none => exact Or.inr ⟨Set.eq_empty_iff_forall_notMem.mpr foremost, rfl⟩
  | some first =>
      exact Or.inl ⟨foremost.1, fun place member => foremost.2 place member⟩

theorem isGreatest_getD [LE α] (last : IsForemost (· ≥ ·) places answer)
    (p : α) :
    IsGreatest places (answer.getD p) ∨ places = ∅ ∧ answer.getD p = p := by
  cases answer with
  | none => exact Or.inr ⟨Set.eq_empty_iff_forall_notMem.mpr last, rfl⟩
  | some first => exact Or.inl ⟨last.1, fun place member => last.2 place member⟩

end IsForemost

/--
The next of some places on a way around all of them: behind the last comes the
first again.
-/
def IsNextAround (ahead before : α → α → Prop) (places : Set α)
    (p q : α) : Prop :=
  IsForemost before {place ∈ places | ahead p place} (some q) ∨
    (∀ place ∈ places, ¬ ahead p place) ∧ IsForemost before places (some q)

theorem IsNextAround.mem (next : IsNextAround ahead before places p q) :
    q ∈ places := by
  rcases next with first | ⟨-, first⟩
  · exact first.1.1
  · exact first.1

theorem IsNextAround.swap (linear : ∀ {p q}, ¬ ahead p q ↔ before q p)
    (member : p ∈ places) (next : IsNextAround ahead before places p q) :
    IsNextAround (fun p q => ahead q p) (fun p q => before q p) places q p := by
  rcases next with ⟨⟨_, later⟩, least⟩ | ⟨last, _, least⟩
  · refine Or.inl ⟨⟨member, later⟩, ?_⟩
    rintro place ⟨other, earlier⟩
    exact linear.mp fun between =>
      linear.mpr (least place ⟨other, between⟩) earlier
  · refine Or.inr ⟨fun place other =>
      linear.mpr (least place other), member, ?_⟩
    exact fun place other => linear.mp (last place other)

namespace IsForemost

variable (antisymm : ∀ {p q}, before p q → before q p → p = q)

include antisymm in
theorem eq_some_iff (foremost : IsForemost before places answer) :
    answer = some q ↔ IsForemost before places (some q) := by
  refine ⟨fun same => same ▸ foremost, fun first => ?_⟩
  cases answer with
  | none => exact absurd first.1 (foremost q)
  | some place =>
      rw [antisymm (foremost.2 q first.1) (first.2 place foremost.1)]

include antisymm in
theorem or_eq_some_iff
    (rest : IsForemost before {place ∈ places | ahead p place} answer)
    (all : (∀ place ∈ places, ¬ ahead p place) →
      IsForemost before places other) :
    answer.or other = some q ↔ IsNextAround ahead before places p q := by
  unfold IsNextAround
  cases answer with
  | some place =>
      have found : ¬ ∀ place ∈ places, ¬ ahead p place := fun last =>
        last place rest.1.1 rest.1.2
      rw [Option.some_or, or_iff_left (mt And.left found)]
      exact rest.eq_some_iff antisymm
  | none =>
      have last : ∀ place ∈ places, ¬ ahead p place :=
        fun place member further => rest place ⟨member, further⟩
      rw [Option.none_or, or_iff_right fun first => rest q first.1,
        and_iff_right last]
      exact (all last).eq_some_iff antisymm

theorem or_eq_none_iff
    (rest : IsForemost before {place ∈ places | ahead p place} answer)
    (all : (∀ place ∈ places, ¬ ahead p place) →
      IsForemost before places other) :
    answer.or other = none ↔ places = ∅ := by
  cases answer with
  | some place => simpa using Set.nonempty_iff_ne_empty.mp ⟨place, rest.1.1⟩
  | none =>
      have foremost :=
        all fun place member further => rest place ⟨member, further⟩
      rw [Option.none_or]
      cases other with
      | some place =>
          simpa using Set.nonempty_iff_ne_empty.mp ⟨place, foremost.1⟩
      | none => simpa using Set.eq_empty_iff_forall_notMem.mpr foremost

end IsForemost

end ModalEditing
