import Mathlib.Data.List.DropRight
import Mathlib.Data.Nat.Find
import ModalEditing.Proofs.Engine.CountedMotion
import ModalEditing.Proofs.Engine.VerticalMotion

namespace ModalEditing

open Unicode

namespace Line

variable {line left word right : Line} {col first start stop : Nat}

/-! The word that a column is in, or else the next one. -/

/-- A letter, a number or an underscore stands at a column. -/
def HasWordChar (text : Line) (col : Nat) : Prop :=
  ∃ c, text[col]? = some c ∧ isWordChar c = true

/--
From one column to before another there are only word characters, and none is
next to them.
-/
structure IsWordRun (line : Line) (start stop : Nat) : Prop where
  inside : ∀ col, start ≤ col → col < stop → line.HasWordChar col
  before : ∀ col, start = col + 1 → ¬ line.HasWordChar col
  behind : ¬ line.HasWordChar stop

/-- The first column at or behind another one that holds a word character. -/
def IsNextWordChar (line : Line) (col first : Nat) : Prop :=
  IsLeast {i | col ≤ i ∧ line.HasWordChar i} first

theorem exists_isNextWordChar (later : col ≤ start)
    (solid : line.HasWordChar start) :
    ∃ first, line.IsNextWordChar col first := by
  classical
  have some : ∃ i, col ≤ i ∧ line.HasWordChar i := ⟨start, later, solid⟩
  exact ⟨Nat.find some, Nat.find_spec some, fun _ member =>
    Nat.find_min' some member⟩

theorem isWordRun_append (solid : ∀ c ∈ word, isWordChar c = true)
    (before : ∀ c ∈ left.getLast?, isWordChar c = false)
    (behind : ∀ c ∈ right.head?, isWordChar c = false) :
    IsWordRun (left ++ (word ++ right)) left.length
      (left.length + word.length) where
  inside col lower upper := by
    obtain ⟨i, rfl⟩ := Nat.exists_eq_add_of_le lower
    have inside : i < word.length := Nat.lt_of_add_lt_add_left upper
    refine ⟨word[i], ?_, solid _ (List.getElem_mem inside)⟩
    rw [List.getElem?_append_right lower, Nat.add_sub_cancel_left,
      List.getElem?_append_left inside, List.getElem?_eq_getElem inside]
  before col last := by
    rintro ⟨c, here, isWord⟩
    rw [List.getElem?_append_left (by omega)] at here
    have solid := before c (by rwa [List.getLast?_eq_getElem?, last])
    simp [isWord] at solid
  behind := by
    rintro ⟨c, here, isWord⟩
    rw [List.getElem?_append_right (Nat.le_add_right ..),
      Nat.add_sub_cancel_left, List.getElem?_append_right (Nat.le_refl _),
      Nat.sub_self, ← List.head?_eq_getElem?] at here
    simp [behind c here] at isWord

theorem dropWhile_of_isNextWordChar (next : line.IsNextWordChar col first) :
    (line.drop col).dropWhile (!isWordChar ·) = line.drop first := by
  obtain ⟨⟨later, c, here, isWord⟩, least⟩ := next
  obtain ⟨i, rfl⟩ := Nat.exists_eq_add_of_le later
  rw [← List.getElem?_drop] at here
  obtain ⟨inside, same⟩ := List.getElem?_eq_some_iff.mp here
  have found : (line.drop col).findIdx isWordChar = i := by
    refine (List.findIdx_eq inside).mpr ⟨same ▸ isWord, fun j earlier => ?_⟩
    refine Bool.eq_false_iff.mpr fun solid => ?_
    have other : line.HasWordChar (col + j) :=
      ⟨_, List.getElem?_drop ▸ List.getElem?_eq_getElem (earlier.trans inside),
        solid⟩
    exact absurd (least ⟨Nat.le_add_right col j, other⟩) (by omega)
  simp only [List.dropWhile_eq_drop_findIdx_not, Bool.not_not]
  rw [found, List.drop_drop]

def wordAround (line : Line) (col : Nat) : Text :=
  (line.take col).rtakeWhile isWordChar ++ (line.drop col).takeWhile isWordChar

theorem wordAt?_eq_some (next : line.IsNextWordChar col first) :
    line.wordAt? col = some (line.wordAround first) := by
  obtain ⟨c, here, -⟩ := next.1.2
  obtain ⟨inside, -⟩ := List.getElem?_eq_some_iff.mp here
  have nonempty : (line.drop first).isEmpty = false := by
    rw [List.drop_eq_getElem_cons inside]
    rfl
  have place : line.length - (line.drop first).length = first := by
    rw [List.length_drop]
    omega
  simp only [wordAt?, dropWhile_of_isNextWordChar next, nonempty, place]
  rfl

theorem exists_isWordRun_around (solid : line.HasWordChar first) :
    ∃ start stop, line.IsWordRun start stop ∧ start ≤ first ∧ first < stop ∧
      (line.take stop).drop start = line.wordAround first := by
  obtain ⟨c, here, isWord⟩ := solid
  obtain ⟨inside, same⟩ := List.getElem?_eq_some_iff.mp here
  let left := (line.take first).rdropWhile isWordChar
  let head := (line.take first).rtakeWhile isWordChar
  let tail := (line.drop first).takeWhile isWordChar
  let right := (line.drop first).dropWhile isWordChar
  have front : left ++ head = line.take first :=
    List.rdropWhile_append_rtakeWhile
  have back : tail ++ right = line.drop first := List.takeWhile_append_dropWhile
  have whole : left ++ ((head ++ tail) ++ right) = line := by
    rw [List.append_assoc, back, ← List.append_assoc, front,
      List.take_append_drop]
  have solid : ∀ d ∈ head ++ tail, isWordChar d = true := fun d member =>
    (List.mem_append.mp member).elim List.mem_rtakeWhile_imp
      List.mem_takeWhile_imp
  have before : ∀ d ∈ left.getLast?, isWordChar d = false := by
    intro d last
    have nonempty := List.ne_nil_of_mem (List.mem_of_getLast? last)
    rw [List.getLast?_eq_getLast_of_ne_nil nonempty] at last
    obtain rfl := Option.some.inj last
    exact Bool.eq_false_iff.mpr (List.rdropWhile_last_not isWordChar _ nonempty)
  have behind : ∀ d ∈ right.head?, isWordChar d = false := by
    intro d next
    have stopped := List.head?_dropWhile_not isWordChar (line.drop first)
    rwa [show ((line.drop first).dropWhile isWordChar).head? = some d
      from next] at stopped
  have run := isWordRun_append solid before behind
  rw [whole] at run
  have reached : left.length + head.length = first := by
    rw [← List.length_append, front,
      List.length_take_of_le (Nat.le_of_lt inside)]
  have further : first < left.length + (head ++ tail).length := by
    have positive : 0 < tail.length := by
      simp only [tail]
      rw [List.drop_eq_getElem_cons inside,
        List.takeWhile_cons_of_pos (same ▸ isWord)]
      exact Nat.succ_pos _
    rw [List.length_append]
    omega
  refine ⟨_, _, run, by omega, further, ?_⟩
  conv_lhs => rw [← whole]
  rw [List.take_length_add_append, List.drop_left, List.take_left]
  rfl

theorem wordAt?_eq_none (none : ∀ i, col ≤ i → ¬ line.HasWordChar i) :
    line.wordAt? col = .none := by
  have blank : (line.drop col).dropWhile (!isWordChar ·) = [] := by
    rw [List.dropWhile_eq_nil_iff]
    intro c member
    obtain ⟨i, here⟩ := List.mem_iff_getElem?.mp member
    rw [List.getElem?_drop] at here
    rw [Bool.not_eq_true']
    refine Bool.eq_false_iff.mpr fun solid => ?_
    exact none (col + i) (Nat.le_add_right col i) ⟨c, here, solid⟩
  rw [wordAt?, blank]
  rfl

end Line

namespace Buffer

theorem matchesAt_part {buffer : Buffer} {line : Nat}
    (within : line < buffer.lineCount) (start stop : Nat) :
    buffer.MatchesAt (((buffer.lineText line).take stop).drop start)
      ⟨line, start⟩ := by
  refine ⟨within, ?_⟩
  rw [foldCase, foldCase, ← List.map_drop, List.drop_take]
  exact (List.take_prefix _ _).map toLower

end Buffer

namespace Engine

variable {engine : Engine} {event : KeyEvent}

theorem press_of_searchWord (normal : engine.mode = .normal .none)
    (bare : event.modifiers.hasCommand = false) (key : event.key = .char '*') :
    (engine.press event).engine = engine.searchWord := by
  have alone : event.key.StandsAlone := key ▸ by decide
  rw [press_of_standsAlone normal rfl bare alone, key, enter_normal normal]
  rfl

theorem repeatSearch_once_of_found (normal : engine.mode = .normal .none)
    (within : engine.cursor.line < engine.buffer.lineCount) {pattern : Text}
    (last : engine.lastSearch = some pattern) {direction : Direction}
    {q : Position}
    (found : engine.buffer.search? engine.cursor pattern direction = some q) :
    engine.repeatSearch direction 1 = { engine with cursor := q } := by
  have allowed :=
    Buffer.allows_of_search? (Buffer.lines_ne_nil_of_lt within) found .normal
  rw [repeatSearch_of_found within last found, Function.iterate_one,
    Buffer.searchStep, found, Option.getD_some, moveTo_of_normal normal,
    allowed.nearest_eq]

/--
The key that searches for the word at the cursor takes the whole word that the
first word character from the cursor on is in, and always finds it: the word
itself is a match. The cursor goes to the next match behind it, or from the last
one to the first; nothing else changes, the message neither, and without a word
on the rest of the line nothing changes at all.
-/
theorem Reachable.word_searched (reachable : Reachable engine)
    (normal : engine.mode = .normal .none)
    (bare : event.modifiers.hasCommand = false) (key : event.key = .char '*') :
    let line := engine.currentLine
    let next := (engine.press event).engine
    (∀ col, engine.cursor.col ≤ col → line.HasWordChar col →
      ∃ first start stop q,
        line.IsNextWordChar engine.cursor.col first ∧
        line.IsWordRun start stop ∧ start ≤ first ∧ first < stop ∧
        let word := (line.take stop).drop start
        let found := {q | engine.buffer.MatchesAt word q}
        (IsLeast {m ∈ found | engine.cursor < m} q ∨
          (∀ m ∈ found, ¬ engine.cursor < m) ∧ IsLeast found q) ∧
        next = { engine with lastSearch := some word, cursor := q }) ∧
    ((∀ col, engine.cursor.col ≤ col → ¬ line.HasWordChar col) →
      next = engine) := by
  intro line next
  have within : engine.cursor.line < engine.buffer.lineCount :=
    reachable.coherent.cursor.1
  have runs : next = engine.searchWord := press_of_searchWord normal bare key
  refine ⟨fun col later solid => ?_, fun none => ?_⟩
  · obtain ⟨first, isNext⟩ := Line.exists_isNextWordChar later solid
    obtain ⟨start, stop, run, lower, upper, whole⟩ :=
      Line.exists_isWordRun_around isNext.1.2
    let word := (line.take stop).drop start
    have nonempty : word ≠ [] := by
      obtain ⟨c, here, -⟩ := run.inside first lower upper
      have inside := (List.getElem?_eq_some_iff.mp here).1
      refine List.length_pos_iff.mp ?_
      rw [List.length_drop, List.length_take]
      omega
    -- The word is a match where it stands, so that the search cannot fail.
    have own : engine.buffer.MatchesAt word ⟨engine.cursor.line, start⟩ :=
      Buffer.matchesAt_part within start stop
    obtain ⟨q, found⟩ : ∃ q,
      engine.buffer.search? engine.cursor word .forward = some q := by
      refine Option.ne_none_iff_exists'.mp fun missing => ?_
      have empty := (Buffer.search?_eq_none_iff within nonempty).mp missing
      exact Set.eq_empty_iff_forall_notMem.mp empty _ own
    refine ⟨first, start, stop, q, isNext, run, lower, upper,
      (Buffer.search?_eq_some_iff within nonempty).mp found, ?_⟩
    let searching : Engine := { engine with lastSearch := some word }
    have searches : engine.searchWord = searching.repeatSearch .forward 1 := by
      rw [searchWord, Line.wordAt?_eq_some isNext, ← whole]
    have normal : searching.mode = .normal .none := normal
    rw [runs, searches, repeatSearch_once_of_found normal within rfl found]
  · rw [runs, searchWord, Line.wordAt?_eq_none none]

/--
In the last place of a word, which is also the first in other letters, and
behind all words.
-/
theorem word_searched_from_last :
    let engine :=
      (ofContent "ab_ ?\n- AB_ x").run [.typeScript "u", .setCursor ⟨1, 3⟩]
    let behind := engine.run [.setCursor ⟨0, 3⟩]
    let star : KeyEvent := .char '*'
    (Reachable engine ∧ engine.mode = .normal .none ∧
        Reachable behind ∧ behind.mode = .normal .none ∧
        star.modifiers.hasCommand = false ∧ star.key = .char '*') ∧
      engine.notice = .noUndo ∧
      (engine.press star).engine =
        { engine with lastSearch := some "AB_".toList, cursor := ⟨0, 0⟩ } ∧
      (behind.press star).engine = behind := by
  intro engine behind star
  have reachable : Reachable engine := (Reachable.ofContent _).run _
  have reachable' : Reachable behind := reachable.run _
  have normal : engine.mode = .normal .none := by decide +kernel
  have normal' : behind.mode = .normal .none := by decide +kernel
  have bare : star.modifiers.hasCommand = false := KeyEvent.hasCommand_char '*'
  have last : (engine.press star).engine.lastSearch = some "AB_".toList := by
    decide +kernel
  have cursor : (engine.press star).engine.cursor = ⟨0, 0⟩ := by decide +kernel
  have line : behind.currentLine = "ab_ ?".toList := by decide +kernel
  have none :
      ∀ col, behind.cursor.col ≤ col →
        ¬ behind.currentLine.HasWordChar col := by
    rintro col later ⟨c, here, isWord⟩
    rw [line] at here
    have inside : col < 5 := (List.getElem?_eq_some_iff.mp here).1
    have column : behind.cursor.col = 3 := by decide +kernel
    obtain rfl | rfl : col = 3 ∨ col = 4 := by omega
    · obtain rfl : ' ' = c := Option.some.inj here
      exact absurd isWord (by decide +kernel)
    · obtain rfl : '?' = c := Option.some.inj here
      exact absurd isWord (by decide +kernel)
  obtain ⟨found, -⟩ := reachable.word_searched normal bare rfl
  obtain ⟨-, nothing⟩ := reachable'.word_searched normal' bare rfl
  obtain ⟨_, _, _, q, -, -, -, -, -, moved⟩ :=
    found 3 (by decide +kernel) ⟨'B', by decide +kernel, by decide +kernel⟩
  let next := (engine.press star).engine
  have step :
      next = { engine with
        lastSearch := next.lastSearch
        cursor := next.cursor } := by
    simp only [next, moved]
  rw [last, cursor] at step
  exact ⟨⟨reachable, normal, reachable', normal', bare, rfl⟩, by decide +kernel,
    step, nothing none⟩

end Engine

end ModalEditing
