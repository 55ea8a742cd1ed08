import ModalEditing.Text.Numeral
import ModalEditing.Text.Occurrence

namespace ModalEditing

/-- Replacing a literal text by another one. -/
structure Substitution where
  pattern : Text
  replacement : Text
  everywhere : Bool
  allLines : Bool
  deriving DecidableEq, Repr

namespace Substitution

def onLine? (substitution : Substitution) (line : Line) : Option Line :=
  if Text.occursIn substitution.pattern line then
    some <|
      if substitution.everywhere then
        Text.replaceAll substitution.pattern substitution.replacement line
      else Text.replaceFirst substitution.pattern substitution.replacement line
  else none

/--
Reads pattern, replacement and flags, with slashes between them; anything more
is ignored.
-/
def ofBody? (allLines : Bool) (body : Text) : Option Substitution :=
  match body.splitOn '/' with
  | pattern :: replacement :: rest =>
      if pattern.isEmpty then none
      else some ⟨pattern, replacement, (rest.headD []).contains 'g', allLines⟩
  | _ => none

end Substitution

inductive ExCommand where
  | write
  | quit
  | writeQuit
  /-- The number counts from one, but zero can be typed. -/
  | goToLine (number : Nat)
  | substitute (substitution : Substitution)
  | unknown (text : Text)
  deriving DecidableEq, Repr

namespace ExCommand

def keywords : List (Text × ExCommand) := [
  ("w", write), ("write", write),
  ("q", quit), ("quit", quit), ("q!", quit), ("quit!", quit),
  ("wq", writeQuit), ("x", writeQuit)]

def ofWord (text : Text) : ExCommand :=
  match keywords.lookup text with
  | some command => command
  | none =>
      match Text.word? text with
      | some number => goToLine number
      | none => unknown text

/--
Reads a typed command; an empty one and an incomplete substitution mean nothing.
-/
def ofText? (typed : Text) : Option ExCommand :=
  match Text.trim typed with
  | [] => none
  | 's' :: '/' :: body => (Substitution.ofBody? false body).map substitute
  | '%' :: 's' :: '/' :: body => (Substitution.ofBody? true body).map substitute
  | text => some (ofWord text)

@[simp] theorem ofText?_nil : ofText? [] = none := rfl

end ExCommand

end ModalEditing
