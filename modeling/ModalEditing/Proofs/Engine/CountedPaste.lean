import ModalEditing.Proofs.Engine.DeletionRoundTrip
import ModalEditing.Proofs.Engine.Escape
import ModalEditing.Proofs.Motion.Stops

namespace ModalEditing

theorem getLast?_flatten_replicate {α : Type} (list : List α) {count : Nat}
    (positive : 1 ≤ count) :
    (List.replicate count list).flatten.getLast? = list.getLast? := by
  obtain ⟨count, rfl⟩ := Nat.exists_eq_add_of_le' positive
  rw [List.replicate_succ', List.flatten_append, List.flatten_singleton,
    List.getLast?_append]
  cases last : list.getLast? with
  | some x => rfl
  | none =>
      obtain rfl := List.getLast?_eq_none_iff.mp last
      simp

theorem head?_flatten_replicate {α : Type} (list : List α) {count : Nat}
    (positive : 1 ≤ count) :
    (List.replicate count list).flatten.head? = list.head? := by
  obtain ⟨count, rfl⟩ := Nat.exists_eq_add_of_le' positive
  rw [List.replicate_succ, List.flatten_cons, List.head?_append]
  cases first : list.head? with
  | some x => rfl
  | none =>
      obtain rfl := List.head?_eq_none_iff.mp first
      simp

namespace Buffer

variable {buffer : Buffer}

theorem line?_insertLines {start : Nat} (within : start ≤ buffer.lineCount)
    {lines : List Line} (nonempty : lines ≠ []) :
    (buffer.insertLines start lines).line? start = lines.head? := by
  have above : (buffer.lines.take start).length = start :=
    List.length_take_of_le within
  obtain ⟨first, rest, rfl⟩ := List.exists_cons_of_ne_nil nonempty
  simp [line?, insertLines, above]

end Buffer

namespace Engine

variable {engine : Engine}

/-!
Pasting several copies of the unnamed register, and where the cursor is then.
-/

section Pasted

variable {count : Nat}

theorem registers_paste (engine : Engine) (behind : Bool) (count : Nat) :
    (engine.paste behind count).registers = engine.registers := by
  simp only [paste]
  split <;> rfl

theorem offset_paste_column (engine : Engine) (behind : Bool) :
    engine.buffer.offset ⟨engine.cursor.line,
      if behind && !engine.currentLine.isEmpty then engine.cursor.col + 1
      else engine.cursor.col⟩ =
      engine.buffer.offset engine.cursor +
        if behind && !engine.currentLine.isEmpty then 1 else 0 := by
  simp only [Buffer.offset]
  split <;> rfl

theorem place_paste_lines (coherent : engine.Coherent)
    (normal : engine.mode = .normal .none) {lines : List Line}
    (content : engine.registers.content? Registers.unnamed =
      some (.lines lines))
    (positive : 1 ≤ count) (behind : Bool) :
    let start := if behind then engine.cursor.line + 1 else engine.cursor.line
    let pasted := engine.paste behind count
    ∃ first, lines.head? = some first ∧ pasted.buffer.line? start = some first ∧
      pasted.cursor = ⟨start, first.indentation⟩ := by
  intro start pasted
  let buffer :=
    engine.buffer.insertLines start (List.replicate count lines).flatten
  have moved : pasted = { engine with buffer := buffer }.moveTo
      ⟨start, (buffer.lineText start).indentation⟩ := by
    simp only [pasted, paste, content]
    rfl
  have within : start ≤ engine.buffer.lineCount := by
    have here := coherent.cursor.1
    dsimp only [start]
    split <;> omega
  obtain ⟨_, -, decoded⟩ := Option.bind_eq_some_iff.mp content
  have nonempty : lines ≠ [] :=
    (RegisterContent.decode?_eq_lines_iff.mp decoded).1
  have inserted :=
    Buffer.line?_insertLines within (flatten_replicate_ne_nil nonempty positive)
  rw [head?_flatten_replicate lines positive] at inserted
  obtain ⟨first, head⟩ :=
    Option.ne_none_iff_exists'.mp (mt List.head?_eq_none_iff.mp nonempty)
  have found : buffer.line? start = some first := inserted.trans head
  have text : buffer.lineText start = first := by
    rw [Buffer.lineText, found, Option.getD_some]
  have allowed : buffer.Allows .normal ⟨start, first.indentation⟩ := by
    refine ⟨(List.getElem?_eq_some_iff.mp found).1, ?_⟩
    change _ ≤ (buffer.lineText start).length - 1
    rw [text]
    exact first.indentation_le_pred
  rw [moved, text]
  refine ⟨first, head, found, ?_⟩
  rw [cursor_moveTo, normal]
  exact allowed.nearest_eq

theorem place_paste_chars (coherent : engine.Coherent)
    (normal : engine.mode = .normal .none) {text : Text}
    (content : engine.registers.content? Registers.unnamed = some (.chars text))
    (positive : 1 ≤ count) (behind : Bool) :
    let start := engine.buffer.offset engine.cursor +
      if behind && !engine.currentLine.isEmpty then 1 else 0
    let pasted := engine.paste behind count
    pasted.buffer.text =
        Text.splice engine.buffer.text start
          (List.replicate count text).flatten ∧
      pasted.buffer.offset pasted.cursor = start + count * text.length - 1 ∧
      ∃ last, text.getLast? = some last ∧
        pasted.buffer.char? pasted.cursor = some last := by
  intro start pasted
  let copies := (List.replicate count text).flatten
  let p : Position := ⟨engine.cursor.line,
    if behind && !engine.currentLine.isEmpty then engine.cursor.col + 1
    else engine.cursor.col⟩
  let buffer := (engine.buffer.insertText p copies).1
  let stop := (engine.buffer.insertText p copies).2
  have moved :
      pasted = { engine with buffer := buffer }.moveTo
        ⟨stop.line, stop.col - 1⟩ := by
    simp only [pasted, paste, content]
    rfl
  have place : engine.buffer.offset p = start :=
    offset_paste_column engine behind
  have gap : engine.buffer.hasGap p = true :=
    hasGap_paste_column coherent normal behind
  have whole : buffer.text = Text.splice engine.buffer.text start copies := by
    rw [← place]
    exact Buffer.text_insertText gap copies
  have index : buffer.offset stop = start + copies.length := by
    rw [← place]
    exact Buffer.offset_insertText gap copies
  have length : copies.length = count * text.length := by simp [copies]
  obtain ⟨_, -, decoded⟩ := Option.bind_eq_some_iff.mp content
  obtain ⟨last, ends, unbroken⟩ := RegisterContent.getLast?_of_decode? decoded
  have nonempty : copies ≠ [] :=
    flatten_replicate_ne_nil (List.ne_nil_of_mem (List.mem_of_getLast? ends))
      positive
  have before : buffer.text[buffer.offset stop - 1]? = some last := by
    rw [whole, index, Text.getElem?_splice_last
      (place ▸ Buffer.offset_le_length gap) nonempty,
      getLast?_flatten_replicate text positive, ends]
  have further : 0 < buffer.offset stop := by
    have some := List.length_pos_iff.mpr nonempty
    omega
  obtain ⟨found, offset⟩ :=
    Buffer.char?_of_text (Buffer.hasGap_insertText gap copies) further
      before unbroken
  have stays : pasted.cursor = ⟨stop.line, stop.col - 1⟩ := by
    rw [moved, cursor_moveTo, normal]
    exact (Buffer.allows_of_hasChar (Buffer.hasChar_of_char? found)
      .normal).nearest_eq
  rw [stays, moved]
  refine ⟨whole, ?_, last, ends, found⟩
  rw [← length, ← index]
  exact offset

end Pasted

/--
A count before a paste makes that many copies and puts the cursor on them: on
the first line of pasted lines, on the last character of pasted text.
-/
theorem Reachable.pasted_copies (reachable : Reachable engine)
    (normal : engine.mode = .normal .none) {n : Nat} (positive : 1 ≤ n)
    (limited : n ≤ maxCount) (behind : Bool) :
    let pasted := engine.typed (Text.decimal n ++ [if behind then 'p' else 'P'])
    pasted.registers = engine.registers ∧
    (∀ lines,
      engine.registers.content? Registers.unnamed = some (.lines lines) →
        let start :=
          if behind then engine.cursor.line + 1 else engine.cursor.line
        pasted.buffer.lines = engine.buffer.lines.take start ++
            (List.replicate n lines).flatten ++ engine.buffer.lines.drop start ∧
          pasted.cursor.line = start ∧
          ∃ first, lines.head? = some first ∧
            pasted.buffer.line? start = some first ∧
            (IsLeast {col | first.InWord col} pasted.cursor.col ∨
              {col | first.InWord col} = ∅ ∧ pasted.cursor.col = 0)) ∧
    (∀ text, engine.registers.content? Registers.unnamed = some (.chars text) →
      let start := engine.buffer.offset engine.cursor +
        if behind && !engine.currentLine.isEmpty then 1 else 0
      pasted.buffer.text =
          Text.splice engine.buffer.text start (List.replicate n text).flatten ∧
        pasted.buffer.offset pasted.cursor = start + n * text.length - 1 ∧
        ∃ last, text.getLast? = some last ∧
        pasted.buffer.char? pasted.cursor = some last) ∧
    (engine.registers.get? Registers.unnamed = none ∨
        engine.registers.get? Registers.unnamed = some [] →
      pasted = engine) := by
  have coherent := reachable.coherent
  dsimp only
  rw [typed_counted_paste normal positive limited]
  refine ⟨registers_paste engine behind n, ?_, ?_, ?_⟩
  · intro lines content
    obtain ⟨first, head, found, cursor⟩ :=
      place_paste_lines coherent normal content positive behind
    refine ⟨?_, by rw [cursor], first, head, found, ?_⟩
    · rw [buffer_paste_lines content]
      rfl
    · rw [cursor]
      exact first.isLeast_indentation
  · intro text content
    exact place_paste_chars coherent normal content positive behind
  · intro empty
    refine paste_of_content?_eq_none ?_ behind n
    rcases empty with none | none
    · rw [Registers.content?, none]
      rfl
    · rw [Registers.content?, none]
      rfl

/--
Two copies of an indented line behind another one, and two of a text with a line
break.
-/
theorem pasted_copies_over_lines :
    let whole := (ofContent "  a\nb").run [.typeScript "yy"]
    let spanning := (ofContent "ab\ncd").run [.typeScript "lvjd"]
    let lines := whole.typed (Text.decimal 2 ++ ['p'])
    let text := spanning.typed (Text.decimal 2 ++ ['p'])
    ((Reachable whole ∧ whole.mode = .normal .none ∧
        whole.registers.content? Registers.unnamed =
          some (.lines [[' ', ' ', 'a']])) ∧
      Reachable spanning ∧ spanning.mode = .normal .none ∧
        spanning.registers.content? Registers.unnamed =
          some (.chars ['b', '\n', 'c', 'd'])) ∧
      (lines.registers = whole.registers ∧
        lines.buffer.lines =
          [[' ', ' ', 'a'], [' ', ' ', 'a'], [' ', ' ', 'a'], ['b']] ∧
        lines.cursor.line = 1 ∧
        IsLeast {col | Line.InWord [' ', ' ', 'a'] col} lines.cursor.col) ∧
      text.buffer.text = ['a', 'b', '\n', 'c', 'd', 'b', '\n', 'c', 'd'] ∧
      text.buffer.offset text.cursor = 8 ∧
      text.buffer.char? text.cursor = some 'd' := by
  intro whole spanning lines text
  have reachable : Reachable whole := (Reachable.ofContent _).run _
  have reaching : Reachable spanning := (Reachable.ofContent _).run _
  have mode : whole.mode = .normal .none := by decide +kernel
  have normal : spanning.mode = .normal .none := by decide +kernel
  have block :
      whole.registers.content? Registers.unnamed =
        some (.lines [[' ', ' ', 'a']]) := by
    decide +kernel
  have chars : spanning.registers.content? Registers.unnamed =
      some (.chars ['b', '\n', 'c', 'd']) := by decide +kernel
  have line : whole.cursor.line = 0 := by decide +kernel
  have rows : whole.buffer.lines = [[' ', ' ', 'a'], ['b']] := by decide +kernel
  have left : spanning.buffer.text = ['a'] := by decide +kernel
  have start :
      (spanning.buffer.offset spanning.cursor +
        if true && !spanning.currentLine.isEmpty then 1 else 0) = 1 := by
    decide +kernel
  obtain ⟨kept, pastedLines, -, -⟩ :=
    reachable.pasted_copies mode (show 1 ≤ 2 by decide) (by decide) true
  obtain ⟨-, -, pastedText, -⟩ :=
    reaching.pasted_copies normal (show 1 ≤ 2 by decide) (by decide) true
  obtain ⟨inserted, first, _, head, -, column⟩ := pastedLines _ block
  obtain ⟨spliced, offset, _, last, cursor⟩ := pastedText _ chars
  cases head
  cases last
  rw [if_pos rfl, line] at first
  rw [if_pos rfl, line, rows] at inserted
  rw [start, left] at spliced
  rw [start] at offset
  refine ⟨⟨⟨reachable, mode, block⟩, reaching, normal, chars⟩,
    ⟨kept, inserted, first, column.resolve_right fun none => ?_⟩, spliced,
    offset, cursor⟩
  have word : Line.InWord [' ', ' ', 'a'] 2 :=
    ⟨.word, by decide, by decide +kernel⟩
  exact Set.eq_empty_iff_forall_notMem.mp none.1 2 word

end Engine

end ModalEditing
