import ModalEditing.ExCommand

namespace ModalEditing

namespace Text

variable {pattern text before after : Text}

/-!
The occurrences of a pattern that are met from the left, each behind the one
before it.
-/

/--
A text cut at occurrences of a pattern, of which none begins before the one that
is taken.
-/
inductive IsCut (pattern : Text) : Text → List Text → Prop where
  | whole {text : Text} (missing : ¬ pattern <:+: text) :
      IsCut pattern text [text]
  | occurrence {before after : Text} {pieces : List Text}
      (first : ∀ i < before.length,
        ¬ pattern <+: (before ++ pattern ++ after).drop i)
      (rest : IsCut pattern after pieces) :
      IsCut pattern (before ++ pattern ++ after) (before :: pieces)

theorem piecesFrom_eq (pattern : Text) (skip : Nat) (text : Text) :
    piecesFrom pattern skip text = pieces pattern (text.drop skip) := by
  induction skip generalizing text with
  | zero => rfl
  | succ skip ih =>
      cases text with
      | nil => rfl
      | cons c rest => exact ih rest

theorem pieces_of_occurrence (nonempty : pattern ≠ []) (after : Text) :
    pieces pattern (pattern ++ after) = [] :: pieces pattern after := by
  obtain ⟨c, rest, rfl⟩ := List.exists_cons_of_ne_nil nonempty
  have found : (c :: rest).isPrefixOf (c :: (rest ++ after)) = true :=
    List.isPrefixOf_iff_prefix.mpr (List.prefix_append (c :: rest) after)
  rw [pieces, List.cons_append, piecesFrom, if_pos found, piecesFrom_eq]
  simp

theorem pieces_of_unmatched {c : Char} {rest : Text}
    (missing : ¬ pattern <+: c :: rest) :
    pieces pattern (c :: rest) = (pieces pattern rest).modifyHead (c :: ·) := by
  rw [pieces, piecesFrom, if_neg (mt List.isPrefixOf_iff_prefix.mp missing)]
  rfl

theorem pieces_of_missing (missing : ¬ pattern <:+: text) :
    pieces pattern text = [text] := by
  induction text with
  | nil => rfl
  | cons c rest ih =>
      rw [pieces_of_unmatched fun here => missing here.isInfix,
        ih fun there => missing (List.infix_cons there)]
      rfl

theorem pieces_of_first (nonempty : pattern ≠ [])
    (first : ∀ i < before.length,
      ¬ pattern <+: (before ++ pattern ++ after).drop i) :
    pieces pattern (before ++ pattern ++ after) =
      before :: pieces pattern after := by
  induction before with
  | nil => exact pieces_of_occurrence nonempty after
  | cons c before ih =>
      have later :
          ∀ i < before.length,
            ¬ pattern <+: (before ++ pattern ++ after).drop i :=
        fun i inside => first (i + 1) (Nat.succ_lt_succ inside)
      have here : ¬ pattern <+: c :: (before ++ pattern ++ after) :=
        first 0 (Nat.zero_lt_succ _)
      rw [List.cons_append, List.cons_append,
        pieces_of_unmatched here, ih later]
      rfl

theorem exists_first_occurrence (found : pattern <:+: text) :
    ∃ before after, text = before ++ pattern ++ after ∧
      ∀ i < before.length, ¬ pattern <+: text.drop i := by
  induction text with
  | nil =>
      obtain rfl := List.infix_nil.mp found
      exact ⟨[], [], rfl, fun i inside => absurd inside (Nat.not_lt_zero i)⟩
  | cons c rest ih =>
      by_cases here : pattern <+: c :: rest
      · obtain ⟨after, whole⟩ := here
        exact ⟨[], after, whole.symm, fun i inside =>
          absurd inside (Nat.not_lt_zero i)⟩
      · obtain ⟨before, after, rfl, first⟩ :=
          ih ((List.infix_cons_iff.mp found).resolve_left here)
        refine ⟨c :: before, after, rfl, fun i inside => ?_⟩
        cases i with
        | zero => exact here
        | succ i => exact first i (Nat.lt_of_succ_lt_succ inside)

theorem isCut_pieces (nonempty : pattern ≠ []) (text : Text) :
    IsCut pattern text (pieces pattern text) := by
  induction length : text.length using Nat.strongRecOn generalizing text with
  | ind n ih =>
      by_cases found : pattern <:+: text
      · obtain ⟨before, after, rfl, first⟩ := exists_first_occurrence found
        have shorter : after.length < n := by
          have some := List.length_pos_iff.mpr nonempty
          simp only [List.length_append] at length
          omega
        rw [pieces_of_first nonempty first]
        exact .occurrence first (ih after.length shorter after rfl)
      · rw [pieces_of_missing found]
        exact .whole found

theorem IsCut.eq_pieces (nonempty : pattern ≠ []) {cut : List Text}
    (isCut : IsCut pattern text cut) : cut = pieces pattern text := by
  induction isCut with
  | whole missing => exact (pieces_of_missing missing).symm
  | occurrence first rest ih => rw [pieces_of_first nonempty first, ih]

/-- Every text has just one such cut. -/
theorem isCut_iff (nonempty : pattern ≠ []) {cut : List Text} :
    IsCut pattern text cut ↔ cut = pieces pattern text :=
  ⟨IsCut.eq_pieces nonempty, fun same => same ▸ isCut_pieces nonempty text⟩

theorem IsCut.length_pos {cut : List Text} (isCut : IsCut pattern text cut) :
    0 < cut.length := by
  cases isCut <;> exact Nat.zero_lt_succ _

theorem occursIn_iff (nonempty : pattern ≠ []) :
    occursIn pattern text = true ↔ pattern <:+: text := by
  have isCut := isCut_pieces nonempty text
  unfold occursIn
  rw [decide_eq_true_iff]
  generalize pieces pattern text = cut at isCut
  cases isCut with
  | whole missing => exact iff_of_false (Nat.lt_irrefl 1) missing
  | @occurrence before after pieces first rest =>
      exact iff_of_true (Nat.succ_lt_succ rest.length_pos) ⟨before, after, rfl⟩

theorem exists_isCut (nonempty : pattern ≠ []) (found : pattern <:+: text) :
    ∃ first rest, rest ≠ [] ∧ ∀ cut, IsCut pattern text cut ↔
      cut = first :: rest := by
  obtain ⟨before, after, rfl, first⟩ := exists_first_occurrence found
  have rest := (isCut_pieces nonempty after).length_pos
  refine ⟨before, pieces pattern after, List.length_pos_iff.mp rest,
    fun cut => ?_⟩
  rw [isCut_iff nonempty, pieces_of_first nonempty first]

end Text

namespace Substitution

variable {substitution : Substitution} {line : Line}

/-!
A line with the replacement in the place of the first occurrence, or of all of
them.
-/

theorem onLine?_of_missing (nonempty : substitution.pattern ≠ [])
    (missing : ¬ substitution.pattern <:+: line) :
    substitution.onLine? line = none :=
  if_neg (mt (Text.occursIn_iff nonempty).mp missing)

theorem isSome_onLine?_iff (nonempty : substitution.pattern ≠ []) :
    (substitution.onLine? line).isSome = true ↔
      substitution.pattern <:+: line := by
  rw [← Text.occursIn_iff nonempty, onLine?]
  split <;> simp [*]

theorem onLine?_of_isCut (nonempty : substitution.pattern ≠ []) {first : Text}
    {rest : List Text}
    (isCut : Text.IsCut substitution.pattern line (first :: rest))
    (several : rest ≠ []) :
    substitution.onLine? line =
      some (first ++ substitution.replacement ++
        (if substitution.everywhere then substitution.replacement
          else substitution.pattern).intercalate rest) := by
  have pieces := isCut.eq_pieces nonempty
  obtain ⟨second, rest, rfl⟩ := List.exists_cons_of_ne_nil several
  have occurs : Text.occursIn substitution.pattern line = true := by
    simp [Text.occursIn, ← pieces]
  rw [onLine?, if_pos occurs, Text.replaceAll, Text.replaceFirst, ← pieces]
  cases substitution.everywhere with
  | false => rfl
  | true => exact congrArg some List.intercalate_cons_cons

end Substitution

end ModalEditing
