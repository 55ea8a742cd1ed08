import ModalEditing.Proofs.Buffer.Span
import ModalEditing.Proofs.Text.Pieces

namespace ModalEditing

namespace Buffer

/-!
Lines without line breaks. An edit changes one line, or puts a block of lines in
the place of another; text that is inserted is first split at its line breaks.
-/

def Unbroken (buffer : Buffer) : Prop :=
  ∀ line ∈ buffer.lines, '\n' ∉ line

variable {buffer : Buffer}

theorem Unbroken.splitLines_text (unbroken : buffer.Unbroken)
    (nonempty : buffer.lines ≠ []) :
    Text.splitLines buffer.text = buffer.lines :=
  Text.splitLines_joinLines nonempty unbroken

theorem unbroken_ofLines {lines : List Line}
    (unbroken : ∀ line ∈ lines, '\n' ∉ line) : (ofLines lines).Unbroken := by
  cases lines with
  | nil => simp [ofLines, empty, Unbroken]
  | cons line rest => exact unbroken

theorem Unbroken.lineText (unbroken : buffer.Unbroken) (line : Nat) :
    '\n' ∉ buffer.lineText line := by
  unfold Buffer.lineText line?
  cases found : buffer.lines[line]? with
  | none => exact List.not_mem_nil
  | some text => exact unbroken text (List.mem_of_getElem? found)

theorem Unbroken.take_lineText (unbroken : buffer.Unbroken) (line col : Nat) :
    '\n' ∉ (buffer.lineText line).take col :=
  fun inside => unbroken.lineText line (List.mem_of_mem_take inside)

theorem Unbroken.drop_lineText (unbroken : buffer.Unbroken) (line col : Nat) :
    '\n' ∉ (buffer.lineText line).drop col :=
  fun inside => unbroken.lineText line (List.mem_of_mem_drop inside)

theorem Unbroken.editLine (unbroken : buffer.Unbroken) {edit : Line → Line}
    (keeps : ∀ text, '\n' ∉ text → '\n' ∉ edit text) (line : Nat) :
    (buffer.editLine line edit).Unbroken := by
  intro text member
  obtain ⟨i, within, rfl⟩ := List.getElem_of_mem member
  simp only [Buffer.editLine, List.length_modify] at within
  have kept : '\n' ∉ buffer.lines[i] := unbroken _ (List.getElem_mem within)
  simp only [Buffer.editLine, List.getElem_modify]
  split
  · exact keeps _ kept
  · exact kept

theorem Unbroken.replace (unbroken : buffer.Unbroken) (block : List Line)
    (inserted : ∀ line ∈ block, '\n' ∉ line) (start stop : Nat) :
    (Buffer.mk (buffer.lines.take start ++
      (block ++ buffer.lines.drop stop))).Unbroken := by
  intro line member
  rcases List.mem_append.mp member with above | member
  · exact unbroken line (List.mem_of_mem_take above)
  · rcases List.mem_append.mp member with within | below
    · exact inserted line within
    · exact unbroken line (List.mem_of_mem_drop below)

theorem Unbroken.insertChar? (unbroken : buffer.Unbroken) {p : Position}
    {c : Char} (other : c ≠ '\n') {next : Buffer}
    (inserted : buffer.insertChar? p c = some next) : next.Unbroken := by
  unfold Buffer.insertChar? at inserted
  split at inserted <;> cases inserted
  refine unbroken.editLine (fun text free inside => ?_) _
  rcases List.mem_append.mp inside with left | right
  · exact free (List.mem_of_mem_take left)
  · rcases List.mem_cons.mp right with same | right
    · exact other same.symm
    · exact free (List.mem_of_mem_drop right)

theorem Unbroken.breakLine? (unbroken : buffer.Unbroken) {p : Position}
    {next : Buffer} (broken : buffer.breakLine? p = some next) :
    next.Unbroken := by
  unfold Buffer.breakLine? at broken
  split at broken <;> cases broken
  refine unbroken.replace [_, _] ?_ p.line (p.line + 1)
  simp only [List.forall_mem_cons]
  exact ⟨unbroken.take_lineText _ _, unbroken.drop_lineText _ _, by simp⟩

theorem Unbroken.deleteChar? (unbroken : buffer.Unbroken) {p : Position}
    {next : Buffer} (deleted : buffer.deleteChar? p = some next) :
    next.Unbroken := by
  unfold Buffer.deleteChar? at deleted
  split at deleted <;> cases deleted
  exact unbroken.editLine (fun _ free inside =>
    free (List.mem_of_mem_eraseIdx inside)) _

theorem Unbroken.deleteBefore? (unbroken : buffer.Unbroken) {p q : Position}
    {next : Buffer} (deleted : buffer.deleteBefore? p = some (next, q)) :
    next.Unbroken := by
  unfold Buffer.deleteBefore? at deleted
  split at deleted
  · split at deleted <;> cases deleted
    · exact unbroken.editLine (fun _ free inside =>
        free (List.mem_of_mem_eraseIdx inside)) _
    · refine unbroken.replace [_] ?_ _ _
      rw [List.forall_mem_singleton, List.mem_append, not_or]
      exact ⟨unbroken.lineText _, unbroken.lineText _⟩
  · contradiction

theorem not_mem_graft {left right : Line} {pieces : List Line}
    (leftFree : '\n' ∉ left) (rightFree : '\n' ∉ right)
    (free : ∀ piece ∈ pieces, '\n' ∉ piece) :
    ∀ line ∈ graft left right pieces, '\n' ∉ line := by
  fun_induction graft left right pieces with
  | case1 left => simp [leftFree, rightFree]
  | case2 left only =>
      have middle := free only List.mem_cons_self
      simp [leftFree, middle, rightFree]
  | case3 left first second rest ih =>
      have head := free first List.mem_cons_self
      have tail :=
        ih List.not_mem_nil fun piece member =>
          free piece (List.mem_cons_of_mem _ member)
      exact List.forall_mem_cons.mpr ⟨by simp [leftFree, head], tail⟩

theorem Unbroken.insertText (unbroken : buffer.Unbroken) (p : Position)
    (text : Text) : (buffer.insertText p text).1.Unbroken := by
  unfold Buffer.insertText
  dsimp only
  rw [List.append_assoc]
  refine unbroken.replace _ ?_ _ _
  exact not_mem_graft (unbroken.take_lineText _ _) (unbroken.drop_lineText _ _)
    fun _ => Text.not_mem_of_mem_splitLines

theorem Unbroken.deleteColumns (unbroken : buffer.Unbroken)
    (line start stop : Nat) :
    (buffer.deleteColumns line start stop).1.Unbroken := by
  refine unbroken.editLine (fun text free inside => ?_) line
  rcases List.mem_append.mp inside with left | right
  · exact free (List.mem_of_mem_take left)
  · exact free (List.mem_of_mem_drop right)

theorem Unbroken.deleteSpan (unbroken : buffer.Unbroken)
    (first last : Position) : (buffer.deleteSpan first last).1.Unbroken := by
  unfold Buffer.deleteSpan
  split
  · exact unbroken.deleteColumns _ _ _
  · refine unbroken.replace [_] ?_ _ _
    rw [List.forall_mem_singleton, List.mem_append, not_or]
    exact ⟨unbroken.take_lineText _ _, unbroken.drop_lineText _ _⟩

theorem Unbroken.deleteLines (unbroken : buffer.Unbroken) (start count : Nat) :
    (buffer.deleteLines start count).1.Unbroken :=
  unbroken_ofLines (unbroken.replace [] (by simp) start (start + count))

theorem Unbroken.insertLines (unbroken : buffer.Unbroken) {lines : List Line}
    (inserted : ∀ line ∈ lines, '\n' ∉ line) (start : Nat) :
    (buffer.insertLines start lines).Unbroken := by
  unfold Buffer.insertLines
  rw [List.append_assoc]
  exact unbroken.replace lines inserted start start

theorem not_mem_joined {upper lower : Line} (upperFree : '\n' ∉ upper)
    (lowerFree : '\n' ∉ lower) : '\n' ∉ joined upper lower := by
  have trimmed : '\n' ∉ Text.trimStart lower :=
    fun inside => lowerFree (List.dropWhile_subset Unicode.isBlank inside)
  unfold joined
  dsimp only
  split
  · simp [upperFree, trimmed]
  · simp [upperFree, trimmed]

theorem Unbroken.joinNext? (unbroken : buffer.Unbroken) {line joint : Nat}
    {next : Buffer} (join : buffer.joinNext? line = some (next, joint)) :
    next.Unbroken := by
  simp only [Buffer.joinNext?, Option.map_eq_some_iff, Prod.mk.injEq] at join
  obtain ⟨lower, found, rfl, _⟩ := join
  refine unbroken.replace [_] ?_ _ _
  rw [List.forall_mem_singleton]
  exact not_mem_joined (unbroken.lineText _)
    (unbroken lower (List.mem_of_getElem? found))

end Buffer

end ModalEditing
