import Mathlib.Data.List.Basic
import ModalEditing.Proofs.Buffer.Unbroken

namespace ModalEditing

namespace Text

/-!
Lines that are stored as a text and read again. A line break at the end of the
text ends its last line and starts no other one, and a carriage return before a
line break is lost.
-/

theorem dropReturn_eq_self_iff (line : Line) :
    dropReturn line = line ↔ line.getLast? ≠ some '\r' := by
  unfold dropReturn
  split
  · rename_i ends
    have nonempty : 0 < line.length :=
      List.length_pos_of_mem (List.mem_of_getLast? ends)
    refine iff_of_false (fun same => ?_) (not_not_intro ends)
    have shorter := congrArg List.length same
    rw [List.length_dropLast] at shorter
    omega
  · rename_i other
    exact iff_of_true rfl other

theorem map_dropReturn_eq_self_iff (lines : List Line) :
    lines.map dropReturn = lines ↔
      ∀ line ∈ lines, line.getLast? ≠ some '\r' := by
  have each := @List.map_inj_left _ _ lines dropReturn id
  rw [List.map_id] at each
  exact each.trans (forall₂_congr fun line _ => dropReturn_eq_self_iff line)

theorem contentLines_of_splitLines {text : Text} {upper : List Line}
    {last : Line} (apart : splitLines text = upper ++ [last]) :
    contentLines text = upper.map dropReturn ++ if last = [] then
      [] else [last] := by
  unfold contentLines
  dsimp only
  rw [apart, List.dropLast_concat, List.getLast?_concat, Option.toList_some]
  split
  · rename_i empty
    rw [empty]
    rfl
  · rename_i nonempty
    have kept : [last].filter (!·.isEmpty) = [last] := by simpa using nonempty
    rw [kept]

end Text

namespace Buffer

open Text

variable {upper : List Line} {last : Line}

theorem lines_ofContent_joinLines_concat
    (unbroken : ∀ line ∈ upper ++ [last], '\n' ∉ line) (nonempty : last ≠ []) :
    (ofContent (joinLines (upper ++ [last]))).lines =
      upper.map dropReturn ++ [last] := by
  have apart := splitLines_joinLines (List.concat_ne_nil last upper) unbroken
  rw [ofContent, contentLines_of_splitLines apart, if_neg nonempty,
    lines_ofLines (by simp)]

theorem lines_ofContent_joinLines_concat_nil
    (unbroken : ∀ line ∈ upper, '\n' ∉ line) (nonempty : upper ≠ []) :
    (ofContent (joinLines (upper ++ [[]]))).lines = upper.map dropReturn := by
  have apart := splitLines_joinLines (List.concat_ne_nil [] upper)
    (List.forall_mem_append.mpr ⟨unbroken, by simp⟩)
  rw [ofContent, contentLines_of_splitLines apart, if_pos rfl, List.append_nil,
    lines_ofLines (by simpa using nonempty)]

/--
What a stored text gives back. Lines survive being stored as a text exactly if
none of them holds a line break, none but the last ends with a carriage return,
and the last one is not empty, or else is the only one.
-/
theorem lines_read_again_iff {lines : List Line} (nonempty : lines ≠ []) :
    (ofContent (ofLines lines).text).lines = lines ↔
      (∀ line ∈ lines, '\n' ∉ line) ∧
        (∀ line ∈ lines.dropLast, line.getLast? ≠ some '\r') ∧
        (lines.getLast nonempty ≠ [] ∨ lines.length = 1) := by
  -- What is read holds no line break, so neither side is true of other lines.
  have free (same : (ofContent (ofLines lines).text).lines = lines) :
      ∀ line ∈ lines, '\n' ∉ line :=
    same ▸ unbroken_ofLines fun _ => not_mem_of_mem_contentLines
  refine (and_iff_right_of_imp free).symm.trans
    (and_congr_right fun unbroken => ?_)
  rw [text, lines_ofLines nonempty]
  obtain ⟨upper, last, rfl⟩ :=
    (List.eq_nil_or_concat' lines).resolve_left nonempty
  rw [List.dropLast_concat, List.getLast_concat, ← map_dropReturn_eq_self_iff]
  by_cases empty : last = []
  · subst empty
    rcases eq_or_ne upper [] with rfl | above
    · exact iff_of_true rfl ⟨rfl, Or.inr rfl⟩
    · have only : (upper ++ [[]]).length ≠ 1 := by simpa using above
      have fewer : upper.map dropReturn ≠ upper ++ [[]] := fun same => by
        simpa using congrArg List.length same
      rw [lines_ofContent_joinLines_concat_nil
        (List.forall_mem_append.mp unbroken).1 above]
      exact iff_of_false fewer fun ⟨_, kept⟩ => kept.elim (absurd rfl) only
  · rw [lines_ofContent_joinLines_concat unbroken empty, List.append_left_inj]
    exact (and_iff_left (Or.inl empty)).symm

/-- A carriage return is kept at the end of the last line only. -/
theorem lines_read_again_with_return_at_end :
    let kept : List Line := [[], ['a'], ['b', '\r']]
    let lost : List Line := [['a', '\r'], ['b']]
    (kept ≠ [] ∧ (ofContent (ofLines kept).text).lines = kept) ∧
      lost ≠ [] ∧ (ofContent (ofLines lost).text).lines ≠ lost := by
  intro kept lost
  have keeps := lines_read_again_iff (List.cons_ne_nil [] [['a'], ['b', '\r']])
  have loses := lines_read_again_iff (List.cons_ne_nil ['a', '\r'] [['b']])
  exact ⟨⟨by decide, keeps.mpr (by decide)⟩, by decide, mt loses.mp (by decide)⟩

end Buffer

end ModalEditing
