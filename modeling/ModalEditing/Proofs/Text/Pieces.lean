import ModalEditing.ExCommand

namespace ModalEditing

namespace Text

variable {text piece separator : Text} {pieces : List Text} {c : Char}

/-!
Where the characters of a text come from that is put together from others or cut
out of one.
-/

theorem mem_intercalate_of_mem (member : piece ∈ pieces) (inside : c ∈ piece) :
    c ∈ separator.intercalate pieces := by
  induction pieces with
  | nil => contradiction
  | cons first rest ih =>
      cases rest with
      | nil =>
          obtain rfl := List.mem_singleton.mp member
          simpa using inside
      | cons second rest =>
          rw [List.intercalate_cons_cons]
          rcases List.mem_cons.mp member with rfl | later
          · exact List.mem_append_left _ (List.mem_append_left _ inside)
          · exact List.mem_append_right _ (ih later)

theorem mem_of_mem_intercalate (inside : c ∈ separator.intercalate pieces) :
    c ∈ separator ∨ ∃ piece ∈ pieces, c ∈ piece := by
  induction pieces with
  | nil => simp at inside
  | cons first rest ih =>
      cases rest with
      | nil => exact Or.inr ⟨first, by simp, by simpa using inside⟩
      | cons second rest =>
          rw [List.intercalate_cons_cons] at inside
          rcases List.mem_append.mp inside with before | after
          · rcases List.mem_append.mp before with head | between
            · exact Or.inr ⟨first, by simp, head⟩
            · exact Or.inl between
          · rcases ih after with between | ⟨piece, member, later⟩
            · exact Or.inl between
            · exact Or.inr ⟨piece, List.mem_cons_of_mem _ member, later⟩

theorem mem_modifyHead_cons (member : piece ∈ pieces.modifyHead (c :: ·)) :
    piece ∈ pieces ∨ ∃ rest ∈ pieces, piece = c :: rest := by
  cases pieces with
  | nil => contradiction
  | cons first others =>
      rcases List.mem_cons.mp member with rfl | later
      · exact Or.inr ⟨first, List.mem_cons_self, rfl⟩
      · exact Or.inl (List.mem_cons_of_mem _ later)

theorem mem_of_mem_splitOn {mark : Char} (member : piece ∈ text.splitOn mark)
    (inside : c ∈ piece) : c ∈ text := by
  have whole : [mark].intercalate (text.splitOn mark) = text :=
    List.intercalate_splitOn mark
  rw [← whole]
  exact mem_intercalate_of_mem member inside

theorem not_mem_of_mem_splitOn {mark : Char}
    (member : piece ∈ text.splitOn mark) : mark ∉ piece := by
  induction text generalizing piece with
  | nil =>
      rw [List.splitOn_nil] at member
      obtain rfl := List.mem_singleton.mp member
      exact List.not_mem_nil
  | cons c rest ih =>
      rw [List.splitOn_cons_eq_if_modifyHead] at member
      split at member
      · rcases List.mem_cons.mp member with rfl | later
        · exact List.not_mem_nil
        · exact ih later
      · rename_i other
        rcases mem_modifyHead_cons member with same | ⟨piece, within, rfl⟩
        · exact ih same
        · rintro (_ | ⟨_, later⟩)
          · exact other (beq_self_eq_true mark)
          · exact ih within later

theorem not_mem_of_mem_splitLines (member : piece ∈ splitLines text) :
    '\n' ∉ piece :=
  not_mem_of_mem_splitOn member

theorem not_mem_of_mem_contentLines (member : piece ∈ contentLines text) :
    '\n' ∉ piece := by
  rcases List.mem_append.mp member with ended | last
  · obtain ⟨line, before, rfl⟩ := List.mem_map.mp ended
    have free := not_mem_of_mem_splitLines (List.dropLast_subset _ before)
    unfold dropReturn
    split
    · exact mt (fun inside => List.dropLast_subset _ inside) free
    · exact free
  · have last := (List.mem_filter.mp last).1
    exact not_mem_of_mem_splitLines
      (List.mem_of_getLast? (Option.mem_toList.mp last))

theorem mem_of_mem_trim (inside : c ∈ trim text) : c ∈ text := by
  have ending : c ∈ (trimStart text).reverse := by
    refine List.dropWhile_subset Unicode.isBlank ?_
    simpa [trim, trimEnd] using inside
  exact List.dropWhile_subset Unicode.isBlank (List.mem_reverse.mp ending)

/-! Occurrences of a pattern. -/

theorem mem_of_mem_piecesFrom {pattern : Text} {skip : Nat}
    (member : piece ∈ piecesFrom pattern skip text) (inside : c ∈ piece) :
    c ∈ text := by
  fun_induction piecesFrom pattern skip text generalizing piece with
  | case1 skip =>
      obtain rfl := List.mem_singleton.mp member
      contradiction
  | case2 skip first rest ih => exact List.mem_cons_of_mem _ (ih member inside)
  | case3 first rest found ih =>
      rcases List.mem_cons.mp member with rfl | later
      · contradiction
      · exact List.mem_cons_of_mem _ (ih later inside)
  | case4 first rest missing ih =>
      rcases mem_modifyHead_cons member with same | ⟨piece, within, rfl⟩
      · exact List.mem_cons_of_mem _ (ih same inside)
      · rcases List.mem_cons.mp inside with rfl | later
        · exact List.mem_cons_self
        · exact List.mem_cons_of_mem _ (ih within later)

theorem mem_of_mem_replaceAll {pattern replacement : Text}
    (inside : c ∈ replaceAll pattern replacement text) :
    c ∈ replacement ∨ c ∈ text := by
  rcases mem_of_mem_intercalate inside with replaced | ⟨piece, member, kept⟩
  · exact Or.inl replaced
  · exact Or.inr (mem_of_mem_piecesFrom member kept)

theorem mem_of_mem_replaceFirst {pattern replacement : Text}
    (inside : c ∈ replaceFirst pattern replacement text) :
    c ∈ pattern ∨ c ∈ replacement ∨ c ∈ text := by
  unfold replaceFirst at inside
  split at inside
  · rename_i first second rest cut
    have kept {piece : Text} (member : piece ∈ first :: second :: rest)
        (inside : c ∈ piece) : c ∈ text :=
      mem_of_mem_piecesFrom (cut ▸ member) inside
    rcases List.mem_append.mp inside with before | after
    · rcases List.mem_append.mp before with head | replaced
      · exact Or.inr (Or.inr (kept List.mem_cons_self head))
      · exact Or.inr (Or.inl replaced)
    · rcases mem_of_mem_intercalate after with pattern | ⟨piece, member, tail⟩
      · exact Or.inl pattern
      · exact Or.inr (Or.inr (kept (List.mem_cons_of_mem _ member) tail))
  · exact Or.inr (Or.inr inside)

end Text

/-!
Substitutions hold characters that were typed, and put no others into a line.
-/

theorem Substitution.mem_of_onLine? {substitution : Substitution}
    {line changed : Line} {c : Char}
    (substituted : substitution.onLine? line = some changed)
    (inside : c ∈ changed) :
    c ∈ substitution.pattern ∨ c ∈ substitution.replacement ∨ c ∈ line := by
  unfold onLine? at substituted
  split at substituted
  · cases substituted
    split at inside
    · exact Or.inr (Text.mem_of_mem_replaceAll inside)
    · exact Text.mem_of_mem_replaceFirst inside
  · contradiction

theorem Substitution.mem_of_ofBody? {allLines : Bool} {body : Text}
    {substitution : Substitution} {c : Char}
    (read : ofBody? allLines body = some substitution)
    (inside : c ∈ substitution.pattern ∨ c ∈ substitution.replacement) :
    c ∈ body := by
  unfold ofBody? at read
  split at read
  · rename_i pattern replacement rest cut
    split at read
    · contradiction
    · cases read
      rcases inside with pattern | replacement
      · exact Text.mem_of_mem_splitOn (cut ▸ List.mem_cons_self) pattern
      · exact Text.mem_of_mem_splitOn
          (cut ▸ List.mem_cons_of_mem _ List.mem_cons_self) replacement
  · contradiction

theorem ExCommand.mem_keywords_of_lookup {text : Text} {command : ExCommand}
    (found : keywords.lookup text = some command) :
    (text, command) ∈ keywords := by
  obtain ⟨before, after, listed, -⟩ := List.lookup_eq_some_iff.mp found
  simp [listed]

theorem ExCommand.ofWord_ne_substitute (text : Text)
    (substitution : Substitution) : ofWord text ≠ .substitute substitution := by
  unfold ofWord
  split
  · rename_i command found
    rintro rfl
    have member := mem_keywords_of_lookup found
    simp [keywords] at member
  · split <;> exact ExCommand.noConfusion

theorem ExCommand.mem_of_ofText? {typed : Text} {substitution : Substitution}
    {c : Char} (read : ofText? typed = some (.substitute substitution))
    (inside : c ∈ substitution.pattern ∨ c ∈ substitution.replacement) :
    c ∈ typed := by
  apply Text.mem_of_mem_trim
  unfold ofText? at read
  split at read
  · contradiction
  · rename_i body trimmed
    obtain ⟨_, read, ⟨⟩⟩ := Option.map_eq_some_iff.mp read
    rw [trimmed]
    exact List.mem_cons_of_mem _
      (List.mem_cons_of_mem _ (Substitution.mem_of_ofBody? read inside))
  · rename_i body trimmed
    obtain ⟨_, read, ⟨⟩⟩ := Option.map_eq_some_iff.mp read
    rw [trimmed]
    exact List.mem_cons_of_mem _
      (List.mem_cons_of_mem _
        (List.mem_cons_of_mem _ (Substitution.mem_of_ofBody? read inside)))
  · exact absurd (Option.some.inj read) (ofWord_ne_substitute _ _)

end ModalEditing
