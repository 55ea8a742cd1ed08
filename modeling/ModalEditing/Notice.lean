import ModalEditing.Text.Numeral

namespace ModalEditing

/-- What the editor last had to say. -/
inductive Notice where
  | nothing
  | noUndo
  | noRedo
  | yankedLines (count : Nat)
  | written
  | hasQuit
  | writtenAndQuit
  | unknownCommand (text : Text)
  | notFound (pattern : Text)
  | nothingSearched
  deriving DecidableEq, Repr

def Notice.text : Notice → Text
  | nothing => []
  | noUndo => "Undo is not supported in this editor"
  | noRedo => "Redo is not supported in this editor"
  | yankedLines count =>
      if count = 1 then "1 line yanked"
      else Text.decimal count ++ " lines yanked".toList
  | written => "File written (simulated)"
  | hasQuit => "Quit (simulated)"
  | writtenAndQuit => "File written and quit (simulated)"
  | unknownCommand text => "Not an editor command: " ++ text
  | notFound pattern => "Pattern not found: " ++ pattern
  | nothingSearched => "No previous search pattern"

@[simp] theorem Notice.text_nothing : nothing.text = [] := rfl

end ModalEditing
