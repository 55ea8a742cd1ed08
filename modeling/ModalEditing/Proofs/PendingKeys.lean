import ModalEditing.PendingKeys

namespace ModalEditing

theorem Prefix.complete_of_takesAny {held : Prefix} (any : held.takesAny = true)
    (c : Char) : ∃ command, held.complete c = .command command := by
  cases held with
  | replace => exact ⟨.replace c, rfl⟩
  | findForward => exact ⟨.findForward c, rfl⟩
  | findBackward => exact ⟨.findBackward c, rfl⟩
  | _ => contradiction

namespace PendingKeys

/-!
The ways in which a key is read after pending keys, and what the pending keys
may hold.
-/

inductive Reads (keys : PendingKeys) (starts : Char → Option Prefix) :
    Key → KeyReading → Prop where
  | completed {waiting : HeldPrefix} {c : Char} {command : KeyCommand}
      (held : keys.waiting = some waiting)
      (complete : waiting.held.complete c = .command command) :
      Reads keys starts (.char c) (.command command (keys.count.getD 1))
  | lengthened {waiting : HeldPrefix} {c : Char} {longer : Prefix}
      (held : keys.waiting = some waiting)
      (complete : waiting.held.complete c = .longer longer) :
      Reads keys starts (.char c) (.takenIn keys.count (some longer))
  | dropped {waiting : HeldPrefix} {key : Key}
      (held : keys.waiting = some waiting)
      (fails : ∀ c, key = .char c → waiting.held.complete c = .nothing) :
      Reads keys starts key (.single 1)
  | digit {c : Char} {digit : Nat} (free : keys.waiting = .none)
      (value : Text.digit? c = some digit)
      (counts : digit ≠ 0 ∨ keys.count.isSome) :
      Reads keys starts (.char c)
        (.takenIn (some (pushDigit keys.count digit)) .none)
  | started {c : Char} {held : Prefix} (free : keys.waiting = .none)
      (start : starts c = some held) :
      Reads keys starts (.char c) (.takenIn keys.count (some held))
  /-- A key is neither a digit of a count nor the start of a prefix. -/
  | alone {key : Key} (free : keys.waiting = .none)
      (counts : ∀ c digit, key = .char c → Text.digit? c = some digit →
        digit = 0 ∧ keys.count = .none)
      (begins : ∀ c, key = .char c → starts c = .none) :
      Reads keys starts key (.single (keys.count.getD 1))

theorem reads_read (keys : PendingKeys) (starts : Char → Option Prefix)
    (key : Key) : Reads keys starts key (keys.read starts key) := by
  unfold read
  split
  · rename_i waiting c held
    split
    · exact .completed held ‹_›
    · exact .lengthened held ‹_›
    · refine .dropped held ?_
      rintro _ ⟨⟩
      assumption
  · rename_i waiting held other
    exact .dropped held fun c same => absurd same (other c)
  · rename_i c free
    split
    · rename_i digit value
      obtain ⟨value, counts⟩ := Option.filter_eq_some_iff.mp value
      exact .digit free value (by simpa using counts)
    · rename_i noDigit
      split
      · exact .started free ‹_›
      · refine .alone free ?_ ?_
        · rintro _ digit ⟨⟩ value
          simpa [value] using noDigit
        · rintro _ ⟨⟩
          assumption
  · rename_i free other
    exact .alone free (fun c _ same => absurd same (other c)) fun c same =>
      absurd same (other c)

def Counted (keys : PendingKeys) : Prop :=
  ∀ count ∈ keys.count, 1 ≤ count ∧ count ≤ maxCount

/-- A prefix is one of a motion. -/
def OnlyMotions (keys : PendingKeys) : Prop :=
  ∀ waiting ∈ keys.waiting,
    waiting.held = .go ∨ waiting.held = .findForward ∨
      waiting.held = .findBackward

theorem counted_none : none.Counted := by
  simp [Counted, none]

theorem onlyMotions_none : none.OnlyMotions := by
  simp [OnlyMotions, none]

theorem Counted.dropPrefix {keys : PendingKeys} (counted : keys.Counted) :
    keys.dropPrefix.Counted :=
  counted

theorem onlyMotions_dropPrefix (keys : PendingKeys) :
    keys.dropPrefix.OnlyMotions := by
  simp [OnlyMotions, PendingKeys.dropPrefix]

/-- The pending keys without a prefix that has waited too long. -/
def inTime (keys : PendingKeys) (now : Duration) : PendingKeys :=
  if keys.isOverdue now then keys.dropPrefix else keys

theorem OnlyMotions.inTime {keys : PendingKeys} (motions : keys.OnlyMotions)
    (now : Duration) : (keys.inTime now).OnlyMotions := by
  unfold PendingKeys.inTime
  split
  · exact keys.onlyMotions_dropPrefix
  · exact motions

theorem Counted.inTime {keys : PendingKeys} (counted : keys.Counted)
    (now : Duration) : (keys.inTime now).Counted := by
  unfold PendingKeys.inTime
  split
  · exact counted.dropPrefix
  · exact counted

theorem Counted.getD_pos {keys : PendingKeys} (counted : keys.Counted) :
    1 ≤ keys.count.getD 1 := by
  cases some : keys.count with
  | none => exact Nat.le_refl 1
  | some count => exact (counted count some).1

theorem Counted.command_pos {keys : PendingKeys} (counted : keys.Counted)
    {starts : Char → Option Prefix} {key : Key} {command : KeyCommand}
    {count : Nat} (read : keys.read starts key = .command command count) :
    1 ≤ count := by
  have reads := reads_read keys starts key
  rw [read] at reads
  cases reads with
  | completed _ _ => exact counted.getD_pos

theorem Counted.single_pos {keys : PendingKeys} (counted : keys.Counted)
    {starts : Char → Option Prefix} {key : Key} {count : Nat}
    (read : keys.read starts key = .single count) : 1 ≤ count := by
  have reads := reads_read keys starts key
  rw [read] at reads
  cases reads with
  | dropped _ _ => exact Nat.le_refl 1
  | alone _ _ _ => exact counted.getD_pos

theorem Counted.single_le {keys : PendingKeys} (counted : keys.Counted)
    {starts : Char → Option Prefix} {key : Key} {count : Nat}
    (read : keys.read starts key = .single count) : count ≤ maxCount := by
  have reads := reads_read keys starts key
  rw [read] at reads
  cases reads with
  | dropped _ _ => decide
  | alone _ _ _ =>
      cases some : keys.count with
      | none => decide
      | some count => exact (counted count some).2

theorem pushDigit_bounds {count : Option Nat} {digit : Nat}
    (counts : digit ≠ 0 ∨ count.isSome) (positive : ∀ n ∈ count, 1 ≤ n) :
    1 ≤ pushDigit count digit ∧ pushDigit count digit ≤ maxCount := by
  cases count with
  | none =>
      simp [pushDigit, maxCount] at counts ⊢
      omega
  | some n =>
      have := positive n rfl
      simp [pushDigit, maxCount]
      omega

theorem Counted.takenIn {keys : PendingKeys} (counted : keys.Counted)
    {starts : Char → Option Prefix} {key : Key} {count : Option Nat}
    {held : Option Prefix} (read : keys.read starts key = .takenIn count held)
    (waiting : Option HeldPrefix) : (PendingKeys.mk count waiting).Counted := by
  have reads := reads_read keys starts key
  rw [read] at reads
  cases reads with
  | lengthened _ _ => exact counted
  | started _ _ => exact counted
  | digit _ _ counts =>
      rintro _ ⟨⟩
      exact pushDigit_bounds counts fun n member => (counted n member).1

theorem display_takenIn {keys : PendingKeys} {starts : Char → Option Prefix}
    (typed : ∀ c held, starts c = some held → held.keys = [c])
    {c : Char} {count : Option Nat} {held : Prefix}
    (read : keys.read starts (.char c) = .takenIn count (some held))
    (deadline : Duration) :
    (PendingKeys.mk count (some ⟨held, deadline⟩)).display =
      keys.display ++ [c] := by
  have reads := reads_read keys starts (.char c)
  rw [read] at reads
  cases reads with
  | lengthened waits complete =>
      simp [display, waits, Prefix.keys_of_complete complete]
  | started free start => simp [display, free, typed c held start]

theorem OnlyMotions.takenIn {keys : PendingKeys} (motions : keys.OnlyMotions)
    {key : Key} {count : Option Nat} {held : Option Prefix}
    (read : keys.read Prefix.ofVisualKey? key = .takenIn count held)
    (now wait : Duration) :
    (PendingKeys.mk count
      (held.map (HeldPrefix.start · now wait))).OnlyMotions := by
  have reads := reads_read keys Prefix.ofVisualKey? key
  rw [read] at reads
  cases reads with
  | lengthened waits complete =>
      rename_i waiting c longer
      rcases motions waiting waits with
          same | same | same <;> rw [same] at complete
      · unfold Prefix.complete at complete
        split at complete <;> cases complete <;> contradiction
      · cases complete
      · cases complete
  | digit _ _ _ => simp [OnlyMotions]
  | started _ start =>
      rename_i c held
      rintro _ ⟨⟩
      unfold Prefix.ofVisualKey? at start
      split at start <;> cases start <;> simp [HeldPrefix.start]

theorem OnlyMotions.command {keys : PendingKeys} (motions : keys.OnlyMotions)
    {starts : Char → Option Prefix} {key : Key} {command : KeyCommand}
    {count : Nat} (read : keys.read starts key = .command command count) :
    command = .goToFirstLine ∨ (∃ c, command = .findForward c) ∨
      ∃ c, command = .findBackward c := by
  have reads := reads_read keys starts key
  rw [read] at reads
  cases reads with
  | completed waits complete =>
      rename_i waiting c
      rcases motions waiting waits with
          same | same | same <;> rw [same] at complete
      · unfold Prefix.complete at complete
        split at complete <;> cases complete <;> first | contradiction | simp
      · cases complete
        exact Or.inr (Or.inl ⟨c, rfl⟩)
      · cases complete
        exact Or.inr (Or.inr ⟨c, rfl⟩)

theorem read_takesAny {keys : PendingKeys} {waiting : HeldPrefix}
    (held : keys.waiting = some waiting) (any : waiting.held.takesAny = true)
    (starts : Char → Option Prefix) (c : Char) :
    ∃ command, keys.read starts (.char c) =
      .command command (keys.count.getD 1) := by
  obtain ⟨command, complete⟩ := Prefix.complete_of_takesAny any c
  exact ⟨command, by simp [read, held, complete]⟩

theorem OnlyMotions.read_single {keys : PendingKeys}
    (motions : keys.OnlyMotions)
    (free : ∀ waiting, keys.waiting = some waiting →
      waiting.held.takesAny = false)
    {c : Char} (noDigit : Text.digit? c = .none)
    (noPrefix : Prefix.ofVisualKey? c = .none) :
    ∃ count, keys.read Prefix.ofVisualKey? (.char c) = .single count := by
  have onlyGo :
      ∀ waiting, keys.waiting = some waiting → waiting.held = .go := by
    intro waiting held
    have plain := free waiting held
    rcases motions waiting held with same | same | same
    · exact same
    · simp [same, Prefix.takesAny] at plain
    · simp [same, Prefix.takesAny] at plain
  have notG : c ≠ 'g' := by
    rintro rfl
    contradiction
  have complete : Prefix.go.complete c = .nothing := by
    simp [Prefix.complete, notG]
  have reads := reads_read keys Prefix.ofVisualKey? (.char c)
  generalize keys.read Prefix.ofVisualKey? (.char c) = reading at reads ⊢
  cases reads with
  | completed held completed => simp [onlyGo _ held, complete] at completed
  | lengthened held completed => simp [onlyGo _ held, complete] at completed
  | dropped _ _ => exact ⟨1, rfl⟩
  | digit _ value _ => simp [noDigit] at value
  | started _ start => simp [noPrefix] at start
  | alone _ _ _ => exact ⟨_, rfl⟩

end PendingKeys

end ModalEditing
