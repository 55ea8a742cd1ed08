import ModalEditing.Buffer.Edit
import ModalEditing.Proofs.Motion.Stops

namespace ModalEditing.Buffer

variable {buffer : Buffer} {p : Position}

/-! The word motions and the places in a text that they go to. -/

def IsStop (buffer : Buffer) (p : Position) : Prop :=
  p.line < buffer.lineCount ∧ (buffer.lineText p.line).IsStop p.col

def EndsWord (buffer : Buffer) (p : Position) : Prop :=
  p.line < buffer.lineCount ∧ (buffer.lineText p.line).EndsWord p.col

theorem IsStop.hasGap (stop : buffer.IsStop p) : buffer.hasGap p = true := by
  obtain ⟨within, starts | ⟨-, leftmost⟩⟩ := stop
  · exact (hasGap_iff buffer p).mpr
      ⟨within, Nat.le_of_lt starts.inWord.lt_length⟩
  · refine (hasGap_iff buffer p).mpr ⟨within, ?_⟩
    rw [leftmost]
    exact Nat.zero_le _

theorem endFrom_eq (gap : buffer.hasGap p = true) :
    buffer.endFrom p =
      ⟨buffer.lastLine, buffer.lineLength buffer.lastLine⟩ := by
  obtain ⟨within, inside⟩ := (hasGap_iff buffer p).mp gap
  unfold endFrom
  split
  · rfl
  · have last : p.line = buffer.lastLine := by
      unfold lastLine at *
      omega
    rw [← last, Nat.max_eq_right inside]

theorem isForemost_wordForward (gap : buffer.hasGap p = true) :
    ∃ answer, IsForemost (· ≤ ·) {q | buffer.IsStop q ∧ p < q} answer ∧
      buffer.wordForward p =
        answer.getD ⟨buffer.lastLine, buffer.lineLength buffer.lastLine⟩ := by
  have within := ((hasGap_iff buffer p).mp gap).1
  have starts := (buffer.lineText p.line).isForemost_startsWord_behind p.col
  have here := Line.isForemost_isStop_behind starts
  refine ⟨_, isForemost_ahead within Line.isForemost_firstStart? here, ?_⟩
  rw [← endFrom_eq gap]
  unfold wordForward
  dsimp only
  split <;> simp [*]

theorem isLast_wordBackward (gap : buffer.hasGap p = true) :
    ∃ answer, IsForemost (· ≥ ·) {q | buffer.IsStop q ∧ q < p} answer ∧
      buffer.wordBackward p = answer.getD .origin := by
  obtain ⟨within, inside⟩ := (hasGap_iff buffer p).mp gap
  have starts := (buffer.lineText p.line).isLast_startsWord_before p.col
  have here :
      IsForemost (· ≥ ·) {col | col < p.col ∧
        (buffer.lineText p.line).IsStop col} _ :=
    starts.congr fun col => and_congr_right fun before =>
      Line.isStop_iff_startsWord fun start => by
        rw [lineLength, start.1] at inside
        exact Nat.not_lt_of_le inside (Nat.zero_lt_of_lt before)
  refine ⟨_, isLast_behind within Line.isLast_lastStart? here, ?_⟩
  unfold wordBackward
  split <;> simp [*, Nat.not_lt_of_lt within]

theorem isForemost_wordEnd (gap : buffer.hasGap p = true) :
    ∃ answer, IsForemost (· ≤ ·) {q | buffer.EndsWord q ∧ p < q} answer ∧
      buffer.wordEnd p = answer.getD p := by
  have within := ((hasGap_iff buffer p).mp gap).1
  have here := (buffer.lineText p.line).isForemost_endsWord_from (p.col + 1)
  refine ⟨_, isForemost_ahead within Line.isForemost_firstEnd? here, ?_⟩
  unfold wordEnd
  split <;> simp [*]

theorem wordForward_isLeast (gap : buffer.hasGap p = true) :
    IsLeast {q | buffer.IsStop q ∧ p < q} (buffer.wordForward p) ∨
      {q | buffer.IsStop q ∧ p < q} = ∅ ∧
        buffer.wordForward p =
          ⟨buffer.lastLine, buffer.lineLength buffer.lastLine⟩ := by
  obtain ⟨answer, foremost, moved⟩ := isForemost_wordForward gap
  rw [moved]
  exact foremost.isLeast_getD _

theorem hasGap_wordForward (gap : buffer.hasGap p = true) :
    buffer.hasGap (buffer.wordForward p) = true := by
  rcases wordForward_isLeast gap with ⟨⟨stop, -⟩, -⟩ | ⟨-, moved⟩
  · exact stop.hasGap
  · have within := ((hasGap_iff buffer p).mp gap).1
    rw [moved, hasGap_iff]
    exact ⟨Nat.sub_one_lt_of_lt within, Nat.le_refl _⟩

theorem wordBackward_isGreatest (gap : buffer.hasGap p = true) :
    IsGreatest {q | buffer.IsStop q ∧ q < p} (buffer.wordBackward p) ∨
      {q | buffer.IsStop q ∧ q < p} = ∅ ∧ buffer.wordBackward p = .origin := by
  obtain ⟨answer, last, moved⟩ := isLast_wordBackward gap
  rw [moved]
  exact last.isGreatest_getD _

/--
Between a stop and the one before it there is none, so that the way forward
leads back.
-/
theorem IsStop.wordForward_wordBackward (stop : buffer.IsStop p)
    (second : ¬ IsLeast {q | buffer.IsStop q} p) :
    buffer.wordForward (buffer.wordBackward p) = p := by
  rcases wordBackward_isGreatest stop.hasGap with
      ⟨⟨back, before⟩, greatest⟩ | ⟨none, -⟩
  · rcases wordForward_isLeast back.hasGap with
        ⟨⟨forth, behind⟩, least⟩ | ⟨none, -⟩
    · refine Position.eq_of_le_of_le (least ⟨stop, before⟩)
        (Position.not_lt.mp fun less => ?_)
      exact Position.not_lt.mpr (greatest ⟨forth, less⟩) behind
    · exact absurd ⟨stop, before⟩ (Set.eq_empty_iff_forall_notMem.mp none p)
  · refine absurd ⟨stop, fun q other =>
      Position.not_lt.mp fun less => ?_⟩ second
    exact Set.eq_empty_iff_forall_notMem.mp none q ⟨other, less⟩

/--
The motions to the starts of words go along one row of stops: forward to the
next one or else to the end of the text, and backward to the one before or else
to its start. From a stop they undo each other.
-/
theorem word_motions_follow_stops (gap : buffer.hasGap p = true) :
    (IsLeast {q | buffer.IsStop q ∧ p < q} (buffer.wordForward p) ∨
      {q | buffer.IsStop q ∧ p < q} = ∅ ∧
        buffer.wordForward p =
          ⟨buffer.lastLine, buffer.lineLength buffer.lastLine⟩) ∧
    (IsGreatest {q | buffer.IsStop q ∧ q < p} (buffer.wordBackward p) ∨
      {q | buffer.IsStop q ∧ q < p} = ∅ ∧ buffer.wordBackward p = ⟨0, 0⟩) ∧
    (buffer.IsStop p → ¬ IsLeast {q | buffer.IsStop q} p →
      buffer.wordForward (buffer.wordBackward p) = p) :=
  ⟨wordForward_isLeast gap, wordBackward_isGreatest gap,
    IsStop.wordForward_wordBackward⟩

/-- From an empty line between two words, one of them behind blanks. -/
theorem word_motions_follow_stops_from_empty_line :
    let buffer := Buffer.ofContent "ab, c\n\n  d"
    (buffer.hasGap ⟨1, 0⟩ = true ∧ buffer.IsStop ⟨1, 0⟩ ∧
        ¬ IsLeast {q | buffer.IsStop q} ⟨1, 0⟩) ∧
      IsLeast {q | buffer.IsStop q ∧ ⟨1, 0⟩ < q} ⟨2, 2⟩ ∧
      IsGreatest {q | buffer.IsStop q ∧ q < ⟨1, 0⟩} ⟨0, 4⟩ ∧
      buffer.wordForward (buffer.wordBackward ⟨1, 0⟩) = ⟨1, 0⟩ := by
  intro buffer
  have gap : buffer.hasGap ⟨1, 0⟩ = true := by decide +kernel
  have stop : buffer.IsStop ⟨1, 0⟩ :=
    ⟨by decide +kernel, Or.inr (by decide +kernel)⟩
  have above : buffer.IsStop ⟨0, 0⟩ := by
    refine ⟨by decide +kernel, Or.inl ⟨.word, by decide, by decide +kernel, ?_⟩⟩
    rintro before ⟨⟩
  have second : ¬ IsLeast {q | buffer.IsStop q} ⟨1, 0⟩ := fun least =>
    absurd (least.2 above) (by decide)
  have forward : buffer.wordForward ⟨1, 0⟩ = ⟨2, 2⟩ := by decide +kernel
  have backward : buffer.wordBackward ⟨1, 0⟩ = ⟨0, 4⟩ := by decide +kernel
  obtain ⟨next, previous, restores⟩ := word_motions_follow_stops gap
  rw [forward] at next
  rw [backward] at previous
  refine ⟨⟨gap, stop, second⟩, next.resolve_right fun last => ?_,
    previous.resolve_right fun first => ?_, restores stop second⟩
  · exact absurd last.2 (by decide +kernel)
  · exact absurd first.2 (by decide)

/--
The motion to the end of a word goes to the next last character of one, or stays
if there is none.
-/
theorem wordEnd_isLeast (gap : buffer.hasGap p = true) :
    IsLeast {q | buffer.EndsWord q ∧ p < q} (buffer.wordEnd p) ∨
      {q | buffer.EndsWord q ∧ p < q} = ∅ ∧ buffer.wordEnd p = p := by
  obtain ⟨answer, foremost, moved⟩ := isForemost_wordEnd gap
  rw [moved]
  exact foremost.isLeast_getD p

/--
From the end of a line over an empty line and blanks, and from there on no
further.
-/
theorem wordEnd_isLeast_over_empty_line :
    let buffer := Buffer.ofContent "ab\n\n  cd\n "
    (buffer.hasGap ⟨0, 1⟩ = true ∧ buffer.hasGap ⟨2, 3⟩ = true) ∧
      IsLeast {q | buffer.EndsWord q ∧ ⟨0, 1⟩ < q} ⟨2, 3⟩ ∧
      {q | buffer.EndsWord q ∧ ⟨2, 3⟩ < q} = ∅ := by
  intro buffer
  have gap : buffer.hasGap ⟨0, 1⟩ = true := by decide +kernel
  have last : buffer.hasGap ⟨2, 3⟩ = true := by decide +kernel
  have moved : buffer.wordEnd ⟨0, 1⟩ = ⟨2, 3⟩ := by decide +kernel
  have stays : buffer.wordEnd ⟨2, 3⟩ = ⟨2, 3⟩ := by decide +kernel
  refine ⟨⟨gap, last⟩, ?_, ?_⟩
  · have next := wordEnd_isLeast gap
    rw [moved] at next
    exact next.resolve_right fun none => absurd none.2 (by decide)
  · have next := wordEnd_isLeast last
    rw [stays] at next
    refine (next.resolve_left fun least => ?_).1
    exact absurd least.1.2 (by decide)

end ModalEditing.Buffer
