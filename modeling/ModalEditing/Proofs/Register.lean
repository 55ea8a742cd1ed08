import ModalEditing.Proofs.Buffer.Span
import ModalEditing.Proofs.Text.Pieces
import ModalEditing.Register

namespace ModalEditing

theorem Registers.content?_store (registers : Registers) (name : Char)
    (text : Text) :
    (registers.store name text).content? name =
      RegisterContent.decode? text := by
  simp [content?]

namespace RegisterContent

/-! What a stored text is read as. -/

theorem decode?_encodeLines {lines : List Line} (nonempty : lines ≠ [])
    (unbroken : ∀ line ∈ lines, '\n' ∉ line) :
    decode? (encodeLines lines) = some (.lines lines) := by
  simp [decode?, encodeLines, Text.splitLines_joinLines nonempty unbroken]

theorem decode?_of_getLast?_ne {text : Text} (nonempty : text ≠ [])
    (last : text.getLast? ≠ some '\n') : decode? text = some (.chars text) := by
  simp [decode?, nonempty, last]

theorem decode?_line {line : Line} (nonempty : line ≠ [])
    (unbroken : '\n' ∉ line) : decode? line = some (.chars line) := by
  refine decode?_of_getLast?_ne nonempty fun last => ?_
  exact unbroken (List.mem_of_getLast? last)

theorem decode?_joinLines_concat (lines : List Line) {last : Line}
    (nonempty : last ≠ []) (unbroken : '\n' ∉ last) :
    decode? (Text.joinLines (lines ++ [last])) =
      some (.chars (Text.joinLines (lines ++ [last]))) := by
  rw [Text.joinLines_above_append (by simp), Text.joinLines_singleton]
  refine decode?_of_getLast?_ne (by simp [nonempty]) ?_
  rw [List.getLast?_append, List.getLast?_eq_some_getLast nonempty,
    Option.some_or]
  intro same
  exact unbroken (Option.some.inj same ▸ List.getLast_mem nonempty)

theorem decode?_joinLines_concat_nil {lines : List Line} (nonempty : lines ≠ [])
    (unbroken : ∀ line ∈ lines, '\n' ∉ line) :
    decode? (Text.joinLines (lines ++ [[]])) = some (.lines lines) := by
  rw [Text.joinLines_append_below nonempty]
  exact decode?_encodeLines nonempty unbroken

theorem decode?_eq_lines_iff {text : Text} {stored : List Line} :
    decode? text = some (.lines stored) ↔
      stored ≠ [] ∧ (∀ line ∈ stored, '\n' ∉ line) ∧
        encodeLines stored = text := by
  constructor
  · intro decoded
    unfold decode? at decoded
    split at decoded
    · contradiction
    · split at decoded <;> cases decoded
      rename_i ends
      obtain ⟨body, rfl⟩ := List.getLast?_eq_some_iff.mp ends
      refine ⟨Buffer.splitLines_ne_nil _, fun _ =>
        Text.not_mem_of_mem_splitLines, ?_⟩
      rw [encodeLines, Text.joinLines_splitLines, List.dropLast_concat]
  · rintro ⟨nonempty, unbroken, rfl⟩
    exact decode?_encodeLines nonempty unbroken

theorem decode?_eq_chars_iff {text held : Text} :
    decode? text = some (.chars held) ↔
      held = text ∧ text ≠ [] ∧ text.getLast? ≠ some '\n' := by
  constructor
  · intro decoded
    unfold decode? at decoded
    split at decoded
    · contradiction
    · rename_i nonempty
      split at decoded <;> cases decoded
      rename_i other
      exact ⟨rfl, mt List.isEmpty_iff.mpr nonempty, other⟩
  · rintro ⟨rfl, nonempty, last⟩
    exact decode?_of_getLast?_ne nonempty last

theorem decode?_eq_none_iff {text : Text} :
    decode? text = none ↔ text = [] := by
  unfold decode?
  split
  · rename_i empty
    exact iff_of_true rfl (List.isEmpty_iff.mp empty)
  · rename_i nonempty
    refine iff_of_false ?_ (mt List.isEmpty_iff.mpr nonempty)
    split <;> exact Option.some_ne_none _

theorem nonempty_of_decode? {text : Text} {content : RegisterContent}
    (decoded : decode? text = some content) :
    (∃ lines ≠ [], content = .lines lines) ∨ ∃ text ≠ [],
      content = .chars text := by
  cases content with
  | lines stored =>
      exact Or.inl ⟨stored, (decode?_eq_lines_iff.mp decoded).1, rfl⟩
  | chars held =>
      obtain ⟨rfl, nonempty, -⟩ := decode?_eq_chars_iff.mp decoded
      exact Or.inr ⟨held, nonempty, rfl⟩

theorem getLast?_of_decode? {text chars : Text}
    (decoded : decode? text = some (.chars chars)) :
    ∃ last, chars.getLast? = some last ∧ last ≠ '\n' := by
  obtain ⟨rfl, nonempty, other⟩ := decode?_eq_chars_iff.mp decoded
  obtain ⟨last, ends⟩ :=
    Option.ne_none_iff_exists'.mp (mt List.getLast?_eq_none_iff.mp nonempty)
  exact ⟨last, ends, fun line => other (line ▸ ends)⟩

/--
Reading takes storing back. A text is read as whole lines exactly if it is what
these lines are stored as, one or more of them and without line breaks; as the
characters that it has exactly if there are some and the last one is no line
break; and as nothing exactly if it has none.
-/
theorem decode?_takes_encodeLines_back (text : Text) :
    (∀ stored : List Line, decode? text = some (.lines stored) ↔
        stored ≠ [] ∧ (∀ line ∈ stored, '\n' ∉ line) ∧
        encodeLines stored = text) ∧
      (∀ held : Text, decode? text = some (.chars held) ↔
        held = text ∧ text ≠ [] ∧ text.getLast? ≠ some '\n') ∧
      (decode? text = none ↔ text = []) :=
  ⟨fun _ => decode?_eq_lines_iff, fun _ =>
    decode?_eq_chars_iff, decode?_eq_none_iff⟩

end RegisterContent

end ModalEditing
