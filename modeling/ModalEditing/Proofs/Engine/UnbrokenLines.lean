import ModalEditing.Proofs.Buffer.Unbroken
import ModalEditing.Proofs.Engine.Deletion
import ModalEditing.Proofs.Engine.Publication
import ModalEditing.Proofs.Register

namespace ModalEditing

theorem Prefix.eq_of_complete_replace {held : Prefix} {typed c : Char}
    (complete : held.complete typed = .command (.replace c)) : typed = c := by
  unfold Prefix.complete at complete
  split at complete <;> cases complete
  rfl

theorem PendingKeys.key_of_replace {keys : PendingKeys}
    {starts : Char → Option Prefix} {key : Key} {c : Char} {count : Nat}
    (read : keys.read starts key = .command (.replace c) count) :
    key = .char c := by
  have reads := reads_read keys starts key
  rw [read] at reads
  cases reads with
  | completed _ complete =>
      exact congrArg Key.char (Prefix.eq_of_complete_replace complete)

namespace Operation

def lines : Operation → List Line
  | .loadLines lines => lines
  | _ => []

/-- An operation brings no line break: neither as a key nor within a line. -/
structure Unbroken (operation : Operation) : Prop where
  keys : ∀ event ∈ operation.events, event.key ≠ .char '\n'
  lines : ∀ line ∈ operation.lines, '\n' ∉ line

instance (operation : Operation) : Decidable operation.Unbroken :=
  decidable_of_iff ((∀ event ∈ operation.events, event.key ≠ .char '\n') ∧
      ∀ line ∈ operation.lines, '\n' ∉ line)
    ⟨fun ⟨keys, lines⟩ => ⟨keys, lines⟩, fun ⟨keys, lines⟩ => ⟨keys, lines⟩⟩

end Operation

namespace Engine

inductive New : Engine → Prop where
  | fresh (settings : Settings) : New (fresh settings)
  | ofContent (content : Text) : New (ofContent content)

/--
No line holds a line break, and neither does a command that is being typed,
which may put what it holds into lines. Registers are free to: what they hold is
split before it is inserted.
-/
structure Unbroken (engine : Engine) : Prop where
  buffer : engine.buffer.Unbroken
  typed : ∀ line, engine.mode = .command line → '\n' ∉ line

variable {engine : Engine}

/-! The parts that commands are made of. -/

theorem Unbroken.enter (unbroken : engine.Unbroken) {mode : Mode}
    (typed : ∀ line, mode = .command line → '\n' ∉ line) :
    (engine.enter mode).Unbroken :=
  ⟨unbroken.buffer, typed⟩

theorem Unbroken.enterNormal (unbroken : engine.Unbroken) :
    (engine.enter (.normal .none)).Unbroken :=
  unbroken.enter nofun

theorem Unbroken.enterInsert (unbroken : engine.Unbroken) :
    (engine.enter .insert).Unbroken :=
  unbroken.enter nofun

theorem Unbroken.withKeys (unbroken : engine.Unbroken) (keys : PendingKeys) :
    (engine.enter (engine.mode.withKeys keys)).Unbroken := by
  refine unbroken.enter fun line command => unbroken.typed line ?_
  cases mode : engine.mode with
  | command typed => simpa [mode, Mode.withKeys] using command
  | normal pending => simp [mode, Mode.withKeys] at command
  | insert => simp [mode, Mode.withKeys] at command
  | visual selection pending => simp [mode, Mode.withKeys] at command

theorem Unbroken.say (unbroken : engine.Unbroken) (notice : Notice) :
    (engine.say notice).Unbroken :=
  ⟨unbroken.buffer, unbroken.typed⟩

theorem Unbroken.store (unbroken : engine.Unbroken) (text : Text) :
    (engine.store text).Unbroken :=
  ⟨unbroken.buffer, unbroken.typed⟩

theorem Unbroken.atColumn (unbroken : engine.Unbroken) (col : Nat) :
    (engine.atColumn col).Unbroken :=
  ⟨unbroken.buffer, unbroken.typed⟩

theorem Unbroken.clampCursor (unbroken : engine.Unbroken) :
    engine.clampCursor.Unbroken :=
  ⟨unbroken.buffer, unbroken.typed⟩

theorem Unbroken.moveTo (unbroken : engine.Unbroken) (p : Position) :
    (engine.moveTo p).Unbroken := by
  refine ⟨unbroken.buffer, fun line command => unbroken.typed line ?_⟩
  simp only [Engine.moveTo] at command
  cases mode : engine.mode with
  | command typed => simpa [mode, follow] using command
  | normal keys => simp [mode, follow] at command
  | insert => simp [mode, follow] at command
  | visual selection keys => simp [mode, follow] at command

theorem Unbroken.moveToTarget (unbroken : engine.Unbroken) (key : Key)
    (count : Nat) :
    (((engine.target? key count).map engine.moveTo).getD engine).Unbroken := by
  cases engine.target? key count with
  | none => exact unbroken
  | some p => exact unbroken.moveTo p

theorem Unbroken.moveToColumn (unbroken : engine.Unbroken) (col : Option Nat) :
    (engine.moveToColumn col).Unbroken := by
  cases col with
  | none => exact unbroken
  | some col => exact unbroken.moveTo _

theorem Unbroken.cut (unbroken : engine.Unbroken) (start stop : Nat) :
    (engine.cut start stop).Unbroken :=
  ⟨unbroken.buffer.deleteColumns _ _ _, unbroken.typed⟩

theorem CutsHere.unbroken {next : Engine} (cuts : CutsHere engine next)
    (unbroken : engine.Unbroken) : next.Unbroken := by
  cases cuts with
  | nothing => exact unbroken
  | columns _ stop => exact unbroken.cut _ stop

/-! Commands of normal mode. -/

theorem Unbroken.deleteBackward (unbroken : engine.Unbroken) (count : Nat) :
    (engine.deleteBackward count).Unbroken := by
  unfold Engine.deleteBackward
  dsimp only
  split
  · exact unbroken
  · exact ((unbroken.cut _ _).atColumn _).clampCursor

theorem Unbroken.deleteLines (unbroken : engine.Unbroken) (line count : Nat) :
    (engine.deleteLines line count).Unbroken := by
  unfold Engine.deleteLines
  dsimp only
  split
  · exact unbroken
  · exact ⟨unbroken.buffer.deleteLines line count, unbroken.typed⟩

theorem Unbroken.changeLines (unbroken : engine.Unbroken) (line count : Nat) :
    (engine.changeLines line count).Unbroken := by
  have deleted := unbroken.buffer.deleteLines line count
  unfold Engine.changeLines
  dsimp only
  split
  · exact ⟨deleted, nofun⟩
  · exact ⟨deleted.insertLines (by simp) line, nofun⟩

theorem Unbroken.openLine (unbroken : engine.Unbroken) (line : Nat) :
    (engine.openLine line).Unbroken :=
  ⟨unbroken.buffer.insertLines (by simp) line, nofun⟩

theorem Unbroken.of_deleteInside? (unbroken : engine.Unbroken) {quote : Char}
    {next : Engine} (deleted : engine.deleteInside? quote = some next) :
    next.Unbroken := by
  obtain ⟨opening, closing, _, rfl⟩ := deleteInside?_eq_some deleted
  exact (unbroken.cut _ _).atColumn _

theorem unbroken_joinTimes {buffer : Buffer} (unbroken : buffer.Unbroken)
    (line count : Nat) (joint : Option Nat) :
    (joinTimes line count buffer joint).1.Unbroken := by
  induction count generalizing buffer joint with
  | zero => exact unbroken
  | succ count ih =>
      unfold joinTimes
      split
      · rename_i join
        exact ih (unbroken.joinNext? join) _
      · exact unbroken

theorem Unbroken.joinLines (unbroken : engine.Unbroken) (count : Nat) :
    (engine.joinLines count).Unbroken := by
  refine Unbroken.moveToColumn ?_ _
  exact ⟨unbroken_joinTimes unbroken.buffer _ _ _, unbroken.typed⟩

theorem Unbroken.pasteLines (unbroken : engine.Unbroken) {lines : List Line}
    (free : ∀ line ∈ lines, '\n' ∉ line) (start count : Nat) :
    (engine.pasteLines start lines count).Unbroken := by
  have copies : ∀ line ∈ (List.replicate count lines).flatten, '\n' ∉ line := by
    intro line member
    obtain ⟨copy, copied, inside⟩ := List.mem_flatten.mp member
    obtain rfl := List.eq_of_mem_replicate copied
    exact free line inside
  refine Unbroken.moveTo ?_ _
  exact ⟨unbroken.buffer.insertLines copies start, unbroken.typed⟩

theorem Unbroken.paste (unbroken : engine.Unbroken) (behind : Bool)
    (count : Nat) : (engine.paste behind count).Unbroken := by
  unfold Engine.paste
  dsimp only
  split
  · exact unbroken
  · rename_i content
    obtain ⟨text, _, decoded⟩ := Option.bind_eq_some_iff.mp content
    exact unbroken.pasteLines
      (RegisterContent.decode?_eq_lines_iff.mp decoded |>.2.1) _ count
  · refine Unbroken.moveTo ?_ _
    exact ⟨unbroken.buffer.insertText _ _, unbroken.typed⟩

theorem Unbroken.replaceChar (unbroken : engine.Unbroken) {c : Char}
    (other : c ≠ '\n') : (engine.replaceChar c).Unbroken := by
  unfold Engine.replaceChar
  split
  · rename_i buffer deleted
    have free := unbroken.buffer.deleteChar? deleted
    refine ⟨?_, unbroken.typed⟩
    dsimp only
    cases inserted : buffer.insertChar? engine.cursor c with
    | none => exact free
    | some next => exact free.insertChar? other inserted
  · exact unbroken

theorem Unbroken.repeatSearch (unbroken : engine.Unbroken)
    (direction : Direction) (count : Nat) :
    (engine.repeatSearch direction count).Unbroken := by
  rcases engine.repeatSearch_eq direction count with ⟨p, moved⟩ | ⟨notice, said⟩
  · rw [moved]
    exact unbroken.moveTo p
  · rw [said]
    exact unbroken.say notice

theorem Unbroken.searchWord (unbroken : engine.Unbroken) :
    engine.searchWord.Unbroken := by
  unfold Engine.searchWord
  split
  · refine Unbroken.repeatSearch ?_ _ _
    exact ⟨unbroken.buffer, unbroken.typed⟩
  · exact unbroken

/-! The command line. -/

theorem Unbroken.substitute (unbroken : engine.Unbroken)
    {substitution : Substitution} (pattern : '\n' ∉ substitution.pattern)
    (replacement : '\n' ∉ substitution.replacement) :
    (engine.substitute substitution).Unbroken := by
  have changed {line text : Line} (member : line ∈ engine.buffer.lines)
      (substituted : substitution.onLine? line = some text) : '\n' ∉ text := by
    intro inside
    rcases Substitution.mem_of_onLine? substituted inside with
        typed | typed | kept
    · exact pattern typed
    · exact replacement typed
    · exact unbroken.buffer line member kept
  unfold Engine.substitute
  dsimp only
  split
  · refine ⟨fun line member => ?_, unbroken.typed⟩
    obtain ⟨i, within, rfl⟩ := List.getElem_of_mem member
    have inside : i < engine.buffer.lines.length := by
      rw [List.length_zipWith] at within
      omega
    have member := List.getElem_mem inside
    simp only [List.getElem_zipWith, changedLines, List.getElem_map,
      List.getElem_zipIdx]
    split
    · cases substituted : substitution.onLine? engine.buffer.lines[i] with
      | none => exact unbroken.buffer _ member
      | some text => exact changed member substituted
    · exact unbroken.buffer _ member
  · exact unbroken.say _

theorem Unbroken.execute (unbroken : engine.Unbroken) {command : ExCommand}
    (typed : ∀ substitution, command = .substitute substitution →
      '\n' ∉ substitution.pattern ∧ '\n' ∉ substitution.replacement) :
    (engine.execute command).Unbroken := by
  cases command with
  | goToLine number => exact unbroken.moveTo _
  | substitute substitution =>
      obtain ⟨pattern, replacement⟩ := typed substitution rfl
      exact unbroken.substitute pattern replacement
  | write => exact unbroken.say _
  | quit => exact unbroken.say _
  | writeQuit => exact unbroken.say _
  | unknown text => exact unbroken.say _

theorem Unbroken.runCommandLine (unbroken : engine.Unbroken) {line : Text}
    (free : '\n' ∉ line) : (engine.runCommandLine line).Unbroken := by
  unfold Engine.runCommandLine
  split
  · rename_i typed
    have free : '\n' ∉ typed := mt (List.mem_cons_of_mem _) free
    split
    · rename_i command read
      refine unbroken.execute ?_
      rintro substitution rfl
      exact ⟨fun inside => free (ExCommand.mem_of_ofText? read (Or.inl inside)),
        fun inside => free (ExCommand.mem_of_ofText? read (Or.inr inside))⟩
    · exact unbroken
  · refine Unbroken.repeatSearch ?_ _ _
    split
    · exact unbroken
    · exact ⟨unbroken.buffer, unbroken.typed⟩
  · exact unbroken

/-! Commands of visual mode. -/

theorem Unbroken.cutSelection (unbroken : engine.Unbroken)
    (selection : Selection) : (engine.cutSelection selection).Unbroken :=
  ⟨unbroken.buffer.deleteSpan _ _, unbroken.typed⟩

theorem Unbroken.deleteSelection (unbroken : engine.Unbroken)
    (selection : Selection) : (engine.deleteSelection selection).Unbroken := by
  have normal := unbroken.enterNormal
  unfold Engine.deleteSelection
  dsimp only
  split
  · exact (normal.cutSelection selection).moveTo _
  · exact normal.deleteLines _ _

theorem Unbroken.yankSelection (unbroken : engine.Unbroken)
    (selection : Selection) : (engine.yankSelection selection).Unbroken := by
  have normal := unbroken.enterNormal
  unfold Engine.yankSelection
  dsimp only
  split
  · exact (normal.store _).moveTo _
  · exact ((normal.store _).say _).moveTo _

theorem Unbroken.changeSelection (unbroken : engine.Unbroken)
    (selection : Selection) : (engine.changeSelection selection).Unbroken := by
  unfold Engine.changeSelection
  split
  · exact (unbroken.cutSelection selection).enterInsert.moveTo _
  · exact unbroken.changeLines _ _

/-! Keys. -/

theorem Unbroken.runKeyCommand (unbroken : engine.Unbroken)
    {command : KeyCommand} (other : command ≠ .replace '\n') (count : Nat) :
    (engine.runKeyCommand command count).Unbroken := by
  cases command with
  | deleteLines => exact unbroken.deleteLines _ _
  | yankLines => exact (unbroken.store _).say _
  | changeLines => exact unbroken.changeLines _ _
  | deleteWord =>
      exact ((cutsHere_deleteWord count).unbroken unbroken).clampCursor
  | changeWord =>
      exact ((cutsHere_changeWord count).unbroken unbroken).enterInsert
  | goToFirstLine => exact unbroken.moveTo _
  | deleteInner quote =>
      cases deleted : engine.deleteInside? quote with
      | none => simpa [Engine.runKeyCommand, deleted] using unbroken
      | some next =>
          simpa [Engine.runKeyCommand, deleted]
            using (unbroken.of_deleteInside? deleted).clampCursor
  | changeInner quote =>
      cases deleted : engine.deleteInside? quote with
      | none => simpa [Engine.runKeyCommand, deleted] using unbroken
      | some next =>
          simpa [Engine.runKeyCommand, deleted]
            using (unbroken.of_deleteInside? deleted).enterInsert
  | replace c => exact unbroken.replaceChar fun same => other (congrArg _ same)
  | findForward c => exact unbroken.moveToColumn _
  | findBackward c => exact unbroken.moveToColumn _

theorem Unbroken.runNormalAction? (unbroken : engine.Unbroken) {key : Key}
    {count : Nat} {next : Engine}
    (run : engine.runNormalAction? key count = some next) : next.Unbroken := by
  unfold Engine.runNormalAction? at run
  dsimp only at run
  -- One case for each key, in the order of the definition.
  split at run <;> cases run
  · exact unbroken
  · exact unbroken.enterInsert
  · exact (unbroken.atColumn _).enterInsert
  · exact (unbroken.atColumn _).enterInsert
  · exact (unbroken.atColumn _).enterInsert
  · exact unbroken.openLine _
  · exact unbroken.openLine _
  · exact ((cutsHere_deleteForward count).unbroken unbroken).enterInsert
  · exact unbroken.changeLines _ _
  · exact (cutsHere_deleteToLineEnd.unbroken unbroken).enterInsert
  · exact ((cutsHere_deleteForward count).unbroken unbroken).clampCursor
  · exact ((cutsHere_deleteForward count).unbroken unbroken).clampCursor
  · exact unbroken.deleteBackward count
  · exact (cutsHere_deleteToLineEnd.unbroken unbroken).clampCursor
  · exact unbroken.paste true count
  · exact unbroken.paste false count
  · exact unbroken.joinLines count
  · exact unbroken.enter nofun
  · exact unbroken.enter nofun
  · exact unbroken.enter (by rintro _ ⟨⟩; decide)
  · exact unbroken.enter (by rintro _ ⟨⟩; decide)
  · exact unbroken.repeatSearch _ _
  · exact unbroken.repeatSearch _ _
  · exact unbroken.searchWord
  · exact unbroken.say _

theorem Unbroken.runNormalKey? (unbroken : engine.Unbroken) {key : Key}
    {count : Nat} {next : Engine}
    (run : engine.runNormalKey? key count = some next) : next.Unbroken := by
  unfold Engine.runNormalKey? at run
  split at run
  · cases run
    exact unbroken.moveTo _
  · exact unbroken.runNormalAction? run

theorem Unbroken.runVisualKey? (unbroken : engine.Unbroken)
    {selection : Selection} {key : Key} {count : Nat} {next : Engine}
    (run : engine.runVisualKey? selection key count = some next) :
    next.Unbroken := by
  unfold Engine.runVisualKey? at run
  split at run
  · cases run
    exact unbroken.moveTo _
  · unfold runVisualAction? at run
    split at run <;> cases run
    · exact unbroken.enterNormal.clampCursor
    · exact ⟨unbroken.buffer, nofun⟩
    · exact unbroken.deleteSelection selection
    · exact unbroken.deleteSelection selection
    · exact unbroken.deleteSelection selection
    · exact unbroken.yankSelection selection
    · exact unbroken.changeSelection selection

theorem Unbroken.runInsertKey? (unbroken : engine.Unbroken) {key : Key}
    (other : key ≠ .char '\n') {next : Engine}
    (run : engine.runInsertKey? key = some next) : next.Unbroken := by
  unfold Engine.runInsertKey? at run
  cases key with
  | escape =>
      cases run
      exact (unbroken.atColumn _).enterNormal.clampCursor
  | enter =>
      cases run
      split
      · exact ⟨unbroken.buffer.breakLine? ‹_›, unbroken.typed⟩
      · exact unbroken
  | backspace =>
      cases run
      split
      · exact ⟨unbroken.buffer.deleteBefore? ‹_›, unbroken.typed⟩
      · exact unbroken
  | delete =>
      cases run
      refine ⟨?_, unbroken.typed⟩
      dsimp only
      cases deleted : engine.buffer.deleteChar? engine.cursor with
      | none => exact unbroken.buffer
      | some buffer => exact unbroken.buffer.deleteChar? deleted
  | tab =>
      cases run
      exact ⟨unbroken.buffer.insertText _ _, unbroken.typed⟩
  | char c =>
      cases run
      split
      · rename_i inserted
        have free :=
          unbroken.buffer.insertChar? (fun same =>
            other (congrArg _ same)) inserted
        refine Unbroken.atColumn ?_ _
        exact ⟨free, unbroken.typed⟩
      · exact unbroken
  | unidentified => contradiction
  | left | right | up | down | home | toEnd =>
      cases run
      exact unbroken.moveToTarget _ 1

theorem Unbroken.runCommandKey? (unbroken : engine.Unbroken) {line : Text}
    (free : '\n' ∉ line) {key : Key} (other : key ≠ .char '\n') {next : Engine}
    (run : engine.runCommandKey? line key = some next) : next.Unbroken := by
  have normal := unbroken.enterNormal
  unfold Engine.runCommandKey? at run
  split at run <;> cases run
  · exact normal
  · exact (normal.runCommandLine free).clampCursor
  · split
    · exact normal
    · refine unbroken.enter ?_
      rintro _ ⟨⟩
      exact mt (fun inside => List.dropLast_subset _ inside) free
  · refine unbroken.enter ?_
    rintro _ ⟨⟩
    rw [List.mem_append, List.mem_singleton, not_or]
    exact ⟨free, fun same => other (congrArg _ same.symm)⟩

theorem Unbroken.readKey (unbroken : engine.Unbroken) {keys : PendingKeys}
    {starts : Char → Option Prefix} {key : Key} (other : key ≠ .char '\n')
    {run : Engine → Nat → Option Engine}
    (runs : ∀ bare count next, bare.Unbroken → run bare count = some next →
      next.Unbroken) : (engine.readKey keys starts key run).2.Unbroken := by
  have bare := unbroken.withKeys .none
  refine readKey_cases ?_ ?_ ?_ bare
  · intro count held _
    exact unbroken.withKeys _
  · intro command count read
    refine bare.runKeyCommand ?_ count
    rintro rfl
    exact other (PendingKeys.key_of_replace read)
  · intro count next ran
    exact runs _ count next bare ran

theorem Unbroken.dispatch (unbroken : engine.Unbroken) {event : KeyEvent}
    (other : event.key ≠ .char '\n') : (engine.dispatch event).2.Unbroken := by
  unfold Engine.dispatch
  split
  · split
    · exact unbroken.say _
    · exact unbroken
  · split
    · exact unbroken.readKey other fun _ _ _ bare => bare.runNormalKey?
    · exact unbroken.readKey other fun _ _ _ bare => bare.runVisualKey?
    · split
      · exact unbroken.runInsertKey? other ‹_›
      · exact unbroken
    · split
      · exact unbroken.runCommandKey? (unbroken.typed _ ‹_›) other ‹_›
      · exact unbroken

/-! The operations of a host. -/

theorem Unbroken.expire (unbroken : engine.Unbroken) :
    engine.expire.Unbroken := by
  obtain ⟨keys, expired⟩ := engine.exists_expire_eq
  rw [expired]
  exact unbroken.withKeys keys

theorem Unbroken.press (unbroken : engine.Unbroken) {event : KeyEvent}
    (other : event.key ≠ .char '\n') : (engine.press event).engine.Unbroken :=
  unbroken.expire.dispatch other

theorem Unbroken.pressAll (unbroken : engine.Unbroken) {events : List KeyEvent}
    (others : ∀ event ∈ events, event.key ≠ .char '\n') :
    (engine.pressAll events).engine.Unbroken := by
  induction events generalizing engine with
  | nil => exact unbroken
  | cons event rest ih =>
      obtain ⟨other, others⟩ := List.forall_mem_cons.mp others
      exact ih (unbroken.press other) others

theorem Unbroken.tick (unbroken : engine.Unbroken) (now : Duration) :
    (engine.tick now).engine.Unbroken :=
  Unbroken.expire ⟨unbroken.buffer, unbroken.typed⟩

theorem unbroken_loadLines {lines : List Line}
    (free : ∀ line ∈ lines, '\n' ∉ line) :
    (engine.loadLines lines).engine.Unbroken :=
  ⟨Buffer.unbroken_ofLines free, nofun⟩

theorem Unbroken.apply (unbroken : engine.Unbroken) {operation : Operation}
    (clean : operation.Unbroken) :
    (engine.apply operation).engine.Unbroken := by
  obtain ⟨keys, lines⟩ := clean
  cases operation with
  | press event => exact unbroken.press (keys event List.mem_cons_self)
  | pressKey key => exact unbroken.press (keys (.ofKey key) List.mem_cons_self)
  | typeScript script =>
      simp only [Operation.events] at keys
      simp only [Engine.apply, typeScript]
      cases read : KeyEvent.ofScript script with
      | ok events =>
          rw [read] at keys
          exact unbroken.pressAll keys
      | error _ => exact unbroken
  | tick now => exact unbroken.tick now
  | advance elapsed => exact unbroken.tick _
  | loadContent content =>
      exact unbroken_loadLines fun _ => Text.not_mem_of_mem_contentLines
  | loadLines others => exact unbroken_loadLines lines
  | setCursor p => exact unbroken.moveTo p

theorem Unbroken.run (unbroken : engine.Unbroken) {operations : List Operation}
    (clean : ∀ operation ∈ operations, operation.Unbroken) :
    (engine.run operations).Unbroken := by
  induction operations generalizing engine with
  | nil => exact unbroken
  | cons operation rest ih =>
      obtain ⟨first, others⟩ := List.forall_mem_cons.mp clean
      exact ih (unbroken.apply first) others

theorem New.unbroken (new : engine.New) : engine.Unbroken := by
  cases new with
  | fresh settings =>
      exact ⟨Buffer.unbroken_ofLines (List.forall_mem_nil _), nofun⟩
  | ofContent content =>
      exact ⟨Buffer.unbroken_ofLines fun _ =>
        Text.not_mem_of_mem_contentLines, nofun⟩

theorem New.reachable (new : engine.New) : Reachable engine := by
  cases new with
  | fresh settings => exact .fresh settings
  | ofContent content => exact .ofContent content

theorem New.mem_register_of_change (new : engine.New) :
    ∃ text, (engine.pressKey (.char 'S')).engine.registers.get?
        Registers.unnamed = some text ∧
      '\n' ∈ text := by
  have normal : engine.mode = .normal .none := by cases new <;> rfl
  have stored := @get?_changeLines engine engine.cursor.line 1
  rw [pressKey_normal normal (by decide) (by decide)]
  exact ⟨_, stored, List.mem_append_right _ List.mem_cons_self⟩

/--
Lines stay lines. Whatever is done with a new editor, as long as no line break
is typed and none is in a line that its host hands over, its text comes apart
into its lines at every line break. Text that is stored may well hold some.
-/
theorem New.splitLines_text_run {start : Engine} (new : start.New)
    {operations : List Operation}
    (clean : ∀ operation ∈ operations, operation.Unbroken) :
    (∀ line ∈ (start.run operations).buffer.lines, '\n' ∉ line) ∧
      Text.splitLines (start.run operations).buffer.text =
        (start.run operations).buffer.lines ∧
      ∃ others : List Operation, (∀ operation ∈ others, operation.Unbroken) ∧
        ∃ text, (start.run others).registers.get? Registers.unnamed =
            some text ∧
          '\n' ∈ text := by
  have unbroken := (new.unbroken.run clean).buffer
  have nonempty := (new.reachable.run operations).coherent.lines_ne_nil
  refine ⟨unbroken, unbroken.splitLines_text nonempty, [.pressKey (.char 'S')],
    ?_, new.mem_register_of_change⟩
  rw [List.forall_mem_singleton]
  decide +kernel

/--
A text of two lines is yanked, put into a line, and again into lines that are
loaded.
-/
theorem splitLines_text_run_of_pasted :
    let start := ofContent "ab\ncd"
    let operations : List Operation :=
      [.typeScript "vjylP:%s/b/-/<Enter>", .loadContent "x\ny", .typeScript "P",
        .loadLines ["k".toList], .typeScript "p"]
    (start.New ∧ ∀ operation ∈ operations, operation.Unbroken) ∧
      (start.run operations).buffer.lines = ["kab".toList, "c".toList] ∧
      (start.run operations).registers.get? Registers.unnamed =
        some "ab\nc".toList ∧
      Text.splitLines (start.run operations).buffer.text =
        (start.run operations).buffer.lines := by
  intro start operations
  have new : start.New := .ofContent "ab\ncd"
  have clean : ∀ operation ∈ operations, operation.Unbroken := by decide +kernel
  obtain ⟨-, apart, -⟩ := new.splitLines_text_run clean
  exact ⟨⟨new, clean⟩, by decide +kernel, by decide +kernel, apart⟩

end Engine

end ModalEditing
