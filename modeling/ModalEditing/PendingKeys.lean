import ModalEditing.Duration
import ModalEditing.Key.Basic
import ModalEditing.Prefix

namespace ModalEditing

/-- A prefix that waits for its next key until a deadline. -/
structure HeldPrefix where
  held : Prefix
  deadline : Duration
  deriving DecidableEq

namespace HeldPrefix

def start (held : Prefix) (now wait : Duration) : HeldPrefix :=
  ⟨held, now + wait⟩

def isExpired (waiting : HeldPrefix) (now : Duration) : Bool :=
  waiting.deadline ≤ now

end HeldPrefix

def maxCount : Nat := 9999

def pushDigit (count : Option Nat) (digit : Nat) : Nat :=
  min (10 * count.getD 0 + digit) maxCount

/--
The keys of a command that is not complete yet: a repeat count and then a
prefix.
-/
structure PendingKeys where
  count : Option Nat
  waiting : Option HeldPrefix
  deriving DecidableEq

/-- What a key means after the keys before it. -/
inductive KeyReading where
  /-- It is taken in, and makes this count and prefix. -/
  | takenIn (count : Option Nat) (held : Option Prefix)
  | command (command : KeyCommand) (count : Nat)
  /-- It stands for itself, and the keys before it leave a count only. -/
  | single (count : Nat)
  deriving DecidableEq, Repr

namespace PendingKeys

def none : PendingKeys := ⟨.none, .none⟩

def display (keys : PendingKeys) : Text :=
  (keys.count.map Text.decimal).getD [] ++
    (keys.waiting.map (·.held.keys)).getD []

/--
Reads a key. A key that does not go on with a prefix drops it together with the
count; a zero is a digit only within a count.
-/
def read (keys : PendingKeys) (starts : Char → Option Prefix)
    (key : Key) : KeyReading :=
  let count := keys.count.getD 1
  match keys.waiting, key with
  | some waiting, .char c =>
      match waiting.held.complete c with
      | .command command => .command command count
      | .longer held => .takenIn keys.count (some held)
      | .nothing => .single 1
  | some _, _ => .single 1
  | .none, .char c =>
      match (Text.digit? c).filter fun digit =>
        digit ≠ 0 || keys.count.isSome with
      | some digit => .takenIn (some (pushDigit keys.count digit)) .none
      | .none =>
          match starts c with
          | some held => .takenIn keys.count (some held)
          | .none => .single count
  | .none, _ => .single count

def isOverdue (keys : PendingKeys) (now : Duration) : Bool :=
  keys.waiting.any (·.isExpired now)

def dropPrefix (keys : PendingKeys) : PendingKeys :=
  { keys with waiting := .none }

@[simp] theorem display_none : none.display = [] := rfl

end PendingKeys

end ModalEditing
