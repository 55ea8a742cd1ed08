import ModalEditing.Text.Basic

namespace ModalEditing

/-- Keys typed so far of a command of several keys. -/
inductive Prefix where
  | delete
  | change
  | yank
  | go
  | replace
  | findForward
  | findBackward
  | deleteInner
  | changeInner
  deriving DecidableEq, Repr

/-- A complete command of several keys. -/
inductive KeyCommand where
  | deleteLines
  | deleteWord
  | changeLines
  | changeWord
  | yankLines
  | goToFirstLine
  | deleteInner (quote : Char)
  | changeInner (quote : Char)
  | replace (c : Char)
  | findForward (c : Char)
  | findBackward (c : Char)
  deriving DecidableEq, Repr

/-- What a prefix and its next key make. -/
inductive Completion where
  | command (command : KeyCommand)
  | longer (held : Prefix)
  | nothing
  deriving DecidableEq, Repr

namespace Prefix

def ofNormalKey? : Char → Option Prefix
  | 'd' => some delete
  | 'c' => some change
  | 'y' => some yank
  | 'g' => some go
  | 'r' => some replace
  | 'f' => some findForward
  | 'F' => some findBackward
  | _ => none

/--
The prefix that a key starts in visual mode, where only motions take several
keys.
-/
def ofVisualKey? : Char → Option Prefix
  | 'g' => some go
  | 'f' => some findForward
  | 'F' => some findBackward
  | _ => none

def keys : Prefix → Text
  | delete => ['d']
  | change => ['c']
  | yank => ['y']
  | go => ['g']
  | replace => ['r']
  | findForward => ['f']
  | findBackward => ['F']
  | deleteInner => ['d', 'i']
  | changeInner => ['c', 'i']

def takesAny : Prefix → Bool
  | replace | findForward | findBackward => true
  | _ => false

def complete : Prefix → Char → Completion
  | replace, c => .command (.replace c)
  | findForward, c => .command (.findForward c)
  | findBackward, c => .command (.findBackward c)
  | delete, 'd' => .command .deleteLines
  | delete, 'w' => .command .deleteWord
  | delete, 'i' => .longer deleteInner
  | change, 'c' => .command .changeLines
  | change, 'w' => .command .changeWord
  | change, 'i' => .longer changeInner
  | yank, 'y' => .command .yankLines
  | go, 'g' => .command .goToFirstLine
  | deleteInner, '"' => .command (.deleteInner '"')
  | deleteInner, '\'' => .command (.deleteInner '\'')
  | changeInner, '"' => .command (.changeInner '"')
  | changeInner, '\'' => .command (.changeInner '\'')
  | _, _ => .nothing

/-! A prefix is shown as the keys that were typed for it. -/

theorem keys_of_ofNormalKey? {c : Char} {held : Prefix}
    (start : ofNormalKey? c = some held) : held.keys = [c] := by
  unfold ofNormalKey? at start
  split at start <;> cases start <;> rfl

theorem keys_of_ofVisualKey? {c : Char} {held : Prefix}
    (start : ofVisualKey? c = some held) : held.keys = [c] := by
  unfold ofVisualKey? at start
  split at start <;> cases start <;> rfl

theorem keys_of_complete {held longer : Prefix} {c : Char}
    (complete : held.complete c = .longer longer) :
    longer.keys = held.keys ++ [c] := by
  unfold Prefix.complete at complete
  split at complete <;> cases complete <;> rfl

end Prefix

end ModalEditing
