import ModalEditing.Engine.Edit
import ModalEditing.Proofs.Checked.Motion
import ModalEditing.Proofs.Engine.CoherentEdit
import ModalEditing.Proofs.Key.Spelling
import ModalEditing.Proofs.Register

namespace ModalEditing

open Checked

theorem Text.byteLength_le (text : Text) :
    text.byteLength ≤ 4 * text.length := by
  induction text with
  | nil => exact Nat.le_refl 0
  | cons c rest ih =>
      have small := c.utf8Size_le_four
      rw [byteLength_cons, List.length_cons]
      omega

theorem RegisterContent.length_le_of_decode? {text : Text} {stored : List Line}
    (decoded : decode? text = some (lines stored)) :
    stored.length ≤ text.length := by
  obtain ⟨-, -, rfl⟩ := decode?_eq_lines_iff.mp decoded
  rw [encodeLines, List.length_append]
  exact Buffer.length_le_joinLines stored

theorem Buffer.hasGap_next? {buffer : Buffer} {p next : Position}
    (gap : buffer.hasGap p = true) (stepped : buffer.next? p = some next) :
    buffer.hasGap next = true := by
  obtain ⟨within, inside⟩ := (hasGap_iff buffer p).mp gap
  unfold next? at stepped
  split at stepped
  · cases stepped
    exact (hasGap_iff _ _).mpr ⟨within, ‹_›⟩
  · split at stepped
    · cases stepped
      exact (hasGap_iff _ _).mpr ⟨lt_lastLine_iff.mp ‹_›, Nat.zero_le _⟩
    · cases stepped

theorem Buffer.hasGap_wordEnd {buffer : Buffer} {p : Position}
    (gap : buffer.hasGap p = true) :
    buffer.hasGap (buffer.wordEnd p) = true := by
  have walked (takes : Position → Position → Bool) {q : Position}
      (gap : buffer.hasGap q = true) :
      buffer.hasGap (buffer.forward.walk takes q) = true :=
    Way.walk_preserves (P := fun q => buffer.hasGap q = true)
      (fun stepped gap => hasGap_next? gap stepped) gap
  rw [wordEnd_eq_walkWordEnd]
  unfold walkWordEnd
  cases stepped : buffer.next? p with
  | none => exact gap
  | some next =>
      simp only [walkToEnd, walkToRunEnd]
      split
      · exact gap
      · exact walked _ (walked _ (hasGap_next? gap stepped))

namespace Engine

/-! The editing commands, with the partial operations that they are made of. -/

/-- A buffer and a stored text within `maxLines` and `maxLength`. -/
structure Sized (engine : Engine) : Prop where
  buffer : engine.buffer.Sized
  stored : ∀ text ∈ engine.registers.get? Registers.unnamed,
    text.length ≤ maxLength

instance (engine : Engine) : Decidable engine.Sized :=
  decidable_of_iff
    (engine.buffer.Sized ∧
      ∀ text ∈ engine.registers.get? Registers.unnamed, text.length ≤ maxLength)
    ⟨fun ⟨buffer, stored⟩ =>
      ⟨buffer, stored⟩, fun ⟨buffer, stored⟩ => ⟨buffer, stored⟩⟩

def tryNearest (buffer : Buffer) (kind : ModeKind)
    (p : Position) : Checked Position := do
  let line := min p.line (← buffer.tryLastLine)
  return ⟨line, min p.col (buffer.maxCol line (kind == .insert))⟩

def tryClampCursor (engine : Engine) : Checked Engine := do
  return { engine with
    cursor := ← tryNearest engine.buffer engine.mode.kind engine.cursor }

def tryMoveTo (engine : Engine) (p : Position) : Checked Engine := do
  let cursor ← tryNearest engine.buffer engine.mode.kind p
  return { engine with cursor := cursor, mode := follow engine.mode cursor }

def tryMoveToColumn (engine : Engine) (col : Option Nat) : Checked Engine :=
  match col with
  | some col => engine.tryMoveTo ⟨engine.cursor.line, col⟩
  | none => pure engine

def tryTarget? (engine : Engine) (key : Key) (count : Nat) :
    Checked (Option Position) := do
  let buffer := engine.buffer
  let ⟨line, col⟩ := engine.cursor
  let last ← buffer.tryLastLine
  match key with
  | .char 'l' | .right => return some ⟨line, addUpTo col count⟩
  | .char 'j' | .down => return some ⟨min (addUpTo line count) last, col⟩
  | .char 'w' =>
      some <$> tryRepeatMotion buffer.tryWordForward count engine.cursor
  | .char 'b' =>
      some <$> tryRepeatMotion buffer.tryWordBackward count engine.cursor
  | .char 'e' => some <$> tryRepeatMotion buffer.tryWordEnd count engine.cursor
  | .char 'G' => return some ⟨last, col⟩
  | key => return engine.target? key count

def tryCut (engine : Engine) (start stop : Nat) : Checked Engine := do
  let (buffer, text) ← engine.buffer.tryDeleteColumns
    engine.cursor.line start stop
  return { engine with buffer := buffer }.store text

def tryDeleteForward (engine : Engine) (count : Nat) : Checked Engine :=
  let col := engine.cursor.col
  let length := engine.currentLine.length
  if col < length then engine.tryCut col (min (addUpTo col count) length)
  else pure engine

def tryDeleteBackward (engine : Engine) (count : Nat) : Checked Engine := do
  let col := engine.cursor.col
  if col = 0 then return engine
  else
    ((← engine.tryCut (col - count) col).atColumn (col - count)).tryClampCursor

def tryDeleteToLineEnd (engine : Engine) : Checked Engine :=
  let length := engine.currentLine.length
  if engine.cursor.col < length then engine.tryCut engine.cursor.col length
  else pure engine

def tryDeleteLines (engine : Engine) (line count : Nat) : Checked Engine := do
  let (buffer, removed) ← engine.buffer.tryDeleteLines line count
  if removed.isEmpty then return engine
  else
    let line := min line (← buffer.tryLastLine)
    let cursor : Position := ⟨line, (buffer.lineText line).indentation⟩
    ({ engine with buffer := buffer, cursor := cursor }.storeLines
      removed).tryClampCursor

def tryYankLines (engine : Engine) (line count : Nat) : Checked Engine := do
  let stop := min (addUpTo line count) engine.buffer.lineCount
  let lines ← slice engine.buffer.lines line stop
  return (engine.storeLines lines).say (.yankedLines lines.length)

def tryChangeLines (engine : Engine) (line count : Nat) : Checked Engine := do
  let (buffer, removed) ← engine.buffer.tryDeleteLines line count
  let engine := (engine.storeLines removed).enter .insert
  if ← buffer.tryIsEmpty then
    return { engine with buffer := buffer, cursor := .origin }
  else
    return { engine with
      buffer := ← buffer.tryInsertLines line [[]]
      cursor := ⟨line, 0⟩ }

def tryDeleteWord (engine : Engine) (count : Nat) : Checked Engine := do
  let ⟨line, col⟩ := engine.cursor
  let length := engine.currentLine.length
  if col < length then
    let target ← tryRepeatMotion engine.buffer.tryWordForward count
      engine.cursor
    engine.tryCut col (if target.line = line then target.col else length)
  else return engine

def tryWordsEnd (buffer : Buffer) (line : Nat) : Nat → Nat → Checked Nat
  | 0, stop => pure stop
  | count + 1, stop => do
      let next ← buffer.tryWordEnd ⟨line, ← sub stop 1⟩
      if next.line ≠ line then return buffer.lineLength line
      else if next.col < stop then return stop
      else tryWordsEnd buffer line count (← add next.col 1)

def tryChangeWord (engine : Engine) (count : Nat) : Checked Engine := do
  let ⟨line, col⟩ := engine.cursor
  if col < engine.currentLine.length then
    let stop ← engine.currentLine.tryRunEnd col
    engine.tryCut col (← tryWordsEnd engine.buffer line (count - 1) stop)
  else return engine

def tryDeleteInside? (engine : Engine) (quote : Char) :
    Checked (Option Engine) := do
  match ← engine.currentLine.tryQuotePair? engine.cursor.col quote with
  | none => return none
  | some (opening, closing) =>
      let start ← add opening 1
      return some ((← engine.tryCut start closing).atColumn start)

def tryJoinTimes (line : Nat) :
    Nat → Buffer → Option Nat → Checked (Buffer × Option Nat)
  | 0, buffer, joint => pure (buffer, joint)
  | count + 1, buffer, joint => do
      match ← buffer.tryJoinNext? line with
      | some (buffer, joint) => tryJoinTimes line count buffer (some joint)
      | none => return (buffer, joint)

def tryJoinLines (engine : Engine) (count : Nat) : Checked Engine := do
  let times ← sub (max count 2) 1
  let (buffer, joint) ← tryJoinTimes engine.cursor.line times engine.buffer none
  { engine with buffer := buffer }.tryMoveToColumn joint

/-- A line takes three words of a list of lines. -/
def tryPasteLines (engine : Engine) (start : Nat) (lines : List Line)
    (count : Nat) : Checked Engine := do
  reserve (lines.length * count) 24
  let buffer ← engine.buffer.tryInsertLines start
    (List.replicate count lines).flatten
  { engine with buffer := buffer }.tryMoveTo
    ⟨start, (buffer.lineText start).indentation⟩

def tryPasteText (engine : Engine) (col : Nat) (text : Text)
    (count : Nat) : Checked Engine := do
  reserve count text.byteLength
  let (buffer, stop) ←
    engine.buffer.tryInsertText ⟨engine.cursor.line, col⟩
      (List.replicate count text).flatten
  { engine with buffer := buffer }.tryMoveTo ⟨stop.line, stop.col - 1⟩

def tryPaste (engine : Engine) (behind : Bool)
    (count : Nat) : Checked Engine := do
  let ⟨line, col⟩ := engine.cursor
  match engine.registers.content? Registers.unnamed with
  | none => return engine
  | some (.lines lines) =>
      let start ← if behind then add line 1 else pure line
      engine.tryPasteLines start lines count
  | some (.chars text) =>
      let col ← if behind && !engine.currentLine.isEmpty then
        add col 1 else pure col
      engine.tryPasteText col text count

def tryReplaceChar (engine : Engine) (c : Char) : Checked Engine := do
  match ← engine.buffer.tryDeleteChar? engine.cursor with
  | some buffer =>
      return { engine with
        buffer := (buffer.insertChar? engine.cursor c).getD buffer }
  | none => return engine

def tryOpenLine (engine : Engine) (line : Nat) : Checked Engine := do
  let buffer ← engine.buffer.tryInsertLines line [[]]
  return { engine with buffer := buffer, cursor := ⟨line, 0⟩, mode := .insert }

variable {engine : Engine}

theorem tryNearest_eq {buffer : Buffer} (nonempty : buffer.lines ≠ [])
    (kind : ModeKind) (p : Position) :
    tryNearest buffer kind p = pure (nearest buffer kind p) := by
  unfold tryNearest
  rw [Buffer.tryLastLine_eq nonempty]
  rfl

theorem tryClampCursor_eq (nonempty : engine.buffer.lines ≠ []) :
    engine.tryClampCursor = pure engine.clampCursor := by
  unfold tryClampCursor
  rw [tryNearest_eq nonempty]
  rfl

theorem tryMoveTo_eq (nonempty : engine.buffer.lines ≠ []) (p : Position) :
    engine.tryMoveTo p = pure (engine.moveTo p) := by
  unfold tryMoveTo
  rw [tryNearest_eq nonempty]
  rfl

theorem tryMoveToColumn_eq (nonempty : engine.buffer.lines ≠ [])
    (col : Option Nat) :
    engine.tryMoveToColumn col = pure (engine.moveToColumn col) := by
  cases col with
  | none => rfl
  | some col => exact tryMoveTo_eq nonempty _

theorem tryTarget?_eq (nonempty : engine.buffer.lines ≠ [])
    (sized : engine.buffer.Sized) (short : engine.cursor.col ≤ maxLength)
    (key : Key) {count : Nat} (counted : count ≤ maxCount) :
    engine.tryTarget? key count = pure (engine.target? key count) := by
  have fits : engine.cursor.col + count ≤ Text.maxWord := by
    simp only [maxLength, maxCount, Text.maxWord] at *
    omega
  have last : engine.buffer.lastLine ≤ Text.maxWord :=
    Nat.le_trans (Nat.sub_le _ _) sized.lineCount_le
  unfold tryTarget?
  dsimp only
  rw [Buffer.tryLastLine_eq nonempty, pure_bind]
  split
  · rw [addUpTo_eq fits]
    rfl
  · rw [addUpTo_eq fits]
    rfl
  · rw [min_addUpTo last]
    rfl
  · rw [min_addUpTo last]
    rfl
  · rw [tryRepeatMotion_eq (Buffer.tryWordForward_eq nonempty sized)]
    rfl
  · rw [tryRepeatMotion_eq Buffer.tryWordBackward_eq]
    rfl
  · rw [tryRepeatMotion_eq (Buffer.tryWordEnd_eq nonempty sized)]
    rfl
  · rfl
  · rfl

theorem tryCut_eq (start stop : Nat) :
    engine.tryCut start stop = pure (engine.cut start stop) := by
  unfold tryCut
  rw [Buffer.tryDeleteColumns_eq]
  rfl

theorem tryDeleteForward_eq (sized : engine.buffer.Sized) (count : Nat) :
    engine.tryDeleteForward count = pure (engine.deleteForward count) := by
  have length : engine.currentLine.length ≤ Text.maxWord :=
    sized.lineLength_le engine.cursor.line
  unfold tryDeleteForward deleteForward
  dsimp only
  split
  · rw [min_addUpTo length, tryCut_eq]
  · rfl

theorem tryDeleteBackward_eq (nonempty : engine.buffer.lines ≠ [])
    (count : Nat) :
    engine.tryDeleteBackward count = pure (engine.deleteBackward count) := by
  unfold tryDeleteBackward deleteBackward
  dsimp only
  split
  · rfl
  · rw [tryCut_eq, pure_bind]
    exact tryClampCursor_eq (Buffer.lines_editLine_ne_nil nonempty _ _)

theorem tryDeleteToLineEnd_eq :
    engine.tryDeleteToLineEnd = pure engine.deleteToLineEnd := by
  unfold tryDeleteToLineEnd deleteToLineEnd
  dsimp only
  split
  · exact tryCut_eq _ _
  · rfl

theorem tryDeleteLines_eq (nonempty : engine.buffer.lines ≠ [])
    (sized : engine.buffer.Sized) (line count : Nat) :
    engine.tryDeleteLines line count =
      pure (engine.deleteLines line count) := by
  unfold tryDeleteLines deleteLines
  rw [Buffer.tryDeleteLines_eq nonempty sized, pure_bind]
  have remains : (engine.buffer.deleteLines line count).1.lines ≠ [] :=
    Buffer.ofLines_ne_nil _
  generalize engine.buffer.deleteLines line count = deleted at *
  obtain ⟨buffer, removed⟩ := deleted
  dsimp only
  split
  · rfl
  · rw [Buffer.tryLastLine_eq remains, pure_bind]
    exact tryClampCursor_eq remains

theorem tryYankLines_eq (sized : engine.buffer.Sized) {line : Nat}
    (within : line ≤ engine.buffer.lineCount) (count : Nat) :
    engine.tryYankLines line count = pure (engine.yankLines line count) := by
  have ordered : line ≤ min (line + count) engine.buffer.lines.length := by
    change line ≤ engine.buffer.lines.length at within
    omega
  have inside := Nat.min_le_right (line + count) engine.buffer.lines.length
  have lines : slice engine.buffer.lines line
        (min (line + count) engine.buffer.lineCount) =
      pure ((engine.buffer.lines.drop line).take count) := by
    refine (slice_eq ordered inside).trans ?_
    rw [take_min_length, List.drop_take, Nat.add_sub_cancel_left]
  unfold tryYankLines yankLines
  dsimp only
  rw [min_addUpTo sized.lineCount_le, lines, pure_bind]

example : ((ofContent "ab").tryYankLines 2 1).isOk = false := by
  decide +kernel

theorem tryChangeLines_eq (nonempty : engine.buffer.lines ≠ [])
    (sized : engine.buffer.Sized) (line count : Nat) :
    engine.tryChangeLines line count =
      pure (engine.changeLines line count) := by
  unfold tryChangeLines changeLines
  rw [Buffer.tryDeleteLines_eq nonempty sized, pure_bind]
  generalize engine.buffer.deleteLines line count = deleted
  obtain ⟨buffer, removed⟩ := deleted
  dsimp only
  rw [Buffer.tryIsEmpty_eq, pure_bind]
  split
  · rfl
  · rw [Buffer.tryInsertLines_eq, pure_bind]

theorem tryDeleteWord_eq (nonempty : engine.buffer.lines ≠ [])
    (sized : engine.buffer.Sized) (count : Nat) :
    engine.tryDeleteWord count = pure (engine.deleteWord count) := by
  unfold tryDeleteWord deleteWord
  dsimp only
  split
  · rw [tryRepeatMotion_eq (Buffer.tryWordForward_eq nonempty sized),
      pure_bind, tryCut_eq]
  · rfl

theorem tryWordsEnd_eq {buffer : Buffer} (nonempty : buffer.lines ≠ [])
    (sized : buffer.Sized) {line : Nat} (within : line < buffer.lineCount)
    (count : Nat) {stop : Nat} (positive : 1 ≤ stop)
    (inside : stop ≤ buffer.lineLength line + 1) :
    tryWordsEnd buffer line count stop =
      pure (wordsEnd buffer line count stop) := by
  induction count generalizing stop with
  | zero => rfl
  | succ count ih =>
      have gap : buffer.hasGap ⟨line, stop - 1⟩ = true :=
        (Buffer.hasGap_iff _ _).mpr ⟨within, by dsimp only; omega⟩
      have reached := (Buffer.hasGap_iff _ _).mp (Buffer.hasGap_wordEnd gap)
      unfold tryWordsEnd wordsEnd
      rw [sub_eq positive, pure_bind,
        Buffer.tryWordEnd_eq nonempty sized, pure_bind]
      dsimp only
      generalize buffer.wordEnd ⟨line, stop - 1⟩ = next at *
      split
      · rfl
      · rename_i same
        have same := Decidable.not_not.mp same
        rw [same] at reached
        split
        · rfl
        · have short := Nat.le_trans reached.2 (sized.lineLength line)
          rw [add_eq (behind_fits short), pure_bind]
          exact ih (Nat.succ_le_succ (Nat.zero_le _))
            (Nat.succ_le_succ reached.2)

theorem tryChangeWord_eq (nonempty : engine.buffer.lines ≠ [])
    (sized : engine.buffer.Sized)
    (within : engine.cursor.line < engine.buffer.lineCount) (count : Nat) :
    engine.tryChangeWord count = pure (engine.changeWord count) := by
  unfold tryChangeWord changeWord
  dsimp only
  split
  · rename_i inside
    have length : engine.currentLine.length ≤ maxLength :=
      sized.lineLength engine.cursor.line
    obtain ⟨behind, stops⟩ := Line.runEnd_bounds inside
    rw [Line.tryRunEnd_eq length, pure_bind,
      tryWordsEnd_eq nonempty sized within _
        (Nat.succ_le_of_lt (Nat.zero_lt_of_lt behind))
        (Nat.le_succ_of_le stops), pure_bind, tryCut_eq]
  · rfl

theorem tryDeleteInside?_eq (sized : engine.buffer.Sized) (quote : Char) :
    engine.tryDeleteInside? quote = pure (engine.deleteInside? quote) := by
  unfold tryDeleteInside? deleteInside?
  rw [Line.tryQuotePair?_eq, pure_bind]
  cases pair : engine.currentLine.quotePair? engine.cursor.col quote with
  | none => rfl
  | some columns =>
      obtain ⟨opening, closing⟩ := columns
      obtain ⟨inside, -⟩ :=
        List.getElem?_eq_some_iff.mp (Line.quotePair?_opens pair)
      have short :=
        Nat.le_trans (Nat.le_of_lt inside) (sized.lineLength engine.cursor.line)
      dsimp only
      rw [add_eq (behind_fits short), pure_bind, tryCut_eq, pure_bind]
      rfl

theorem tryJoinTimes_eq {line : Nat} (fits : line + 1 ≤ Text.maxWord)
    (count : Nat) (buffer : Buffer) (joint : Option Nat) :
    tryJoinTimes line count buffer joint =
      pure (joinTimes line count buffer joint) := by
  induction count generalizing buffer joint with
  | zero => rfl
  | succ count ih =>
      unfold tryJoinTimes joinTimes
      rw [Buffer.tryJoinNext?_eq fits, pure_bind]
      cases buffer.joinNext? line with
      | none => rfl
      | some joined => exact ih joined.1 (some joined.2)

theorem tryJoinLines_eq (nonempty : engine.buffer.lines ≠ [])
    (sized : engine.buffer.Sized)
    (within : engine.cursor.line < engine.buffer.lineCount) (count : Nat) :
    engine.tryJoinLines count = pure (engine.joinLines count) := by
  have remains :=
    joinTimes_lines_ne_nil nonempty engine.cursor.line (max count 2 - 1) none
  unfold tryJoinLines joinLines
  rw [sub_eq (by omega), pure_bind,
    tryJoinTimes_eq (sized.below_fits (Nat.le_of_lt within)), pure_bind]
  exact tryMoveToColumn_eq remains _

theorem tryPasteLines_eq (nonempty : engine.buffer.lines ≠ []) (start : Nat)
    {lines : List Line} (short : lines.length ≤ maxLength) {count : Nat}
    (counted : count ≤ maxCount) :
    engine.tryPasteLines start lines count =
      pure (engine.pasteLines start lines count) := by
  have room : lines.length * count * 24 ≤ maxBytes :=
    Nat.le_trans (Nat.mul_le_mul_right 24 (Nat.mul_le_mul short counted))
      (by decide)
  unfold tryPasteLines pasteLines
  rw [reserve_eq room, pure_bind, Buffer.tryInsertLines_eq, pure_bind]
  exact tryMoveTo_eq (Buffer.lines_insertLines_ne_nil nonempty _ _) _

theorem tryPasteText_eq (nonempty : engine.buffer.lines ≠ [])
    (sized : engine.buffer.Sized) (col : Nat) {text : Text}
    (short : text.length ≤ maxLength) {count : Nat}
    (counted : count ≤ maxCount) :
    engine.tryPasteText col text count =
      pure (engine.pasteText col text count) := by
  have room : count * text.byteLength ≤ maxBytes :=
    Nat.le_trans (Nat.mul_le_mul counted text.byteLength_le)
      (Nat.le_trans (Nat.mul_le_mul_left _ (Nat.mul_le_mul_left 4 short))
        (by decide))
  have copies :
      (List.replicate count text).flatten.length ≤ maxLength * maxCount := by
    rw [List.length_flatten, List.map_replicate, List.sum_replicate_nat,
      Nat.mul_comm]
    exact Nat.mul_le_mul short counted
  unfold tryPasteText pasteText
  rw [reserve_eq room, pure_bind,
    Buffer.tryInsertText_eq nonempty sized _ copies, pure_bind]
  exact tryMoveTo_eq (Buffer.lines_insertText_ne_nil _ _ _) _

theorem tryPaste_eq (nonempty : engine.buffer.lines ≠ []) (sized : engine.Sized)
    (gap : engine.buffer.hasGap engine.cursor = true) (behind : Bool)
    {count : Nat} (counted : count ≤ maxCount) :
    engine.tryPaste behind count = pure (engine.paste behind count) := by
  obtain ⟨within, inside⟩ := (Buffer.hasGap_iff _ _).mp gap
  have below := sized.buffer.below_fits (Nat.le_of_lt within)
  have next :=
    behind_fits (Nat.le_trans inside
      (sized.buffer.lineLength engine.cursor.line))
  unfold tryPaste paste
  dsimp only
  cases held : engine.registers.content? Registers.unnamed with
  | none => rfl
  | some content =>
      obtain ⟨text, stored, decoded⟩ := Option.bind_eq_some_iff.mp held
      have short := sized.stored text stored
      cases content with
      | lines lines =>
          have few :=
            Nat.le_trans (RegisterContent.length_le_of_decode? decoded) short
          cases behind with
          | false => exact tryPasteLines_eq nonempty _ few counted
          | true =>
              simp only [if_true, add_eq below, pure_bind]
              exact tryPasteLines_eq nonempty _ few counted
      | chars stored =>
          cases (RegisterContent.decode?_eq_chars_iff.mp decoded).1
          dsimp only
          split
          · rw [add_eq next, pure_bind]
            exact tryPasteText_eq nonempty sized.buffer _ short counted
          · exact tryPasteText_eq nonempty sized.buffer _ short counted

theorem tryReplaceChar_eq (c : Char) :
    engine.tryReplaceChar c = pure (engine.replaceChar c) := by
  unfold tryReplaceChar replaceChar
  rw [Buffer.tryDeleteChar?_eq, pure_bind]
  cases engine.buffer.deleteChar? engine.cursor <;> rfl

theorem tryOpenLine_eq (line : Nat) :
    engine.tryOpenLine line = pure (engine.openLine line) := by
  unfold tryOpenLine
  rw [Buffer.tryInsertLines_eq]
  rfl

end Engine

end ModalEditing
