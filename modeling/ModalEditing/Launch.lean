import ModalEditing.Arguments
import ModalEditing.Session

namespace ModalEditing

inductive LaunchError where
  | unreadableSettings (path : Text)
  | invalidSettings (path : Text) (error : SettingsError)
  | unreadableContent (path : Text)
  deriving DecidableEq, Repr

namespace LaunchError

def message : LaunchError → Text
  | unreadableSettings path => "Failed to read config " ++ path
  | invalidSettings path _ => "Invalid config " ++ path
  | unreadableContent path => "Failed to read " ++ path

def cause? : LaunchError → Option Text
  | invalidSettings _ error => some error.message
  | _ => none

end LaunchError

namespace Session

def readSettings (readable : Text → Option Text) :
    Option Text → Except LaunchError Settings
  | none => .ok .standard
  | some path =>
      match readable path with
      | none => .error (.unreadableSettings path)
      | some text => (Settings.ofJson text).mapError (.invalidSettings path)

def readContent (readable : Text → Option Text) :
    Option Text → Except LaunchError Text
  | none => .ok []
  | some path =>
      match readable path with
      | none => .error (.unreadableContent path)
      | some text => .ok text

/--
The session that arguments ask for; `readable` gives the text of a path that can
be read.
-/
def launch (readable : Text → Option Text) (arguments : Arguments) :
    Except LaunchError Session := do
  let settings ← readSettings readable arguments.config
  let content ← readContent readable arguments.file
  return ⟨.start settings content, ⟨arguments.lines⟩, if arguments.json then
    .json else .text⟩

end Session

end ModalEditing
