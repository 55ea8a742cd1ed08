import ModalEditing.Json.Printer
import ModalEditing.Sandbox
import ModalEditing.Snapshot.Document
import ModalEditing.Text.Quoted
import ModalEditing.View

namespace ModalEditing

/-!
A practice session, which reads lines. A line that starts with a backslash is a
command to the session, and any other line is a key script.
-/

inductive OutputFormat where
  | text
  | json
  deriving DecidableEq, Repr

structure Session where
  sandbox : Sandbox
  view : View
  format : OutputFormat
  deriving DecidableEq

inductive Reply where
  | output (text : Text)
  | exit
  deriving DecidableEq, Repr

inductive SessionError where
  | badScript (line : Text) (error : ScriptError)
  | unknownCommand (name : Text)
  deriving DecidableEq, Repr

def SessionError.message : SessionError → Text
  | badScript line error =>
      "Cannot read keys " ++ Text.quoted line ++
        ": Invalid key notation: ".toList ++
        error.message ++ ": ".toList ++ error.message
  | unknownCommand name => "Unknown session command: \\" ++ name

namespace Session

def help : Text :=
  "Type keys in notation, e.g.  3dd  ci'x<Esc>  :s/a/b/g<CR>\n" ++
  "Session commands:\n".toList ++
  "  \\reset         restore the starting content\n".toList ++
  "  \\load <text>   replace the starting content ".toList ++
  "(\\n for newlines)\n".toList ++
  "  \\json, \\text   switch output format\n".toList ++
  "  \\quit          leave".toList

def render (session : Session) : Text :=
  match session.format with
  | .text => session.view.render session.sandbox.snapshot
  | .json => session.sandbox.snapshot.toJson.pretty

def reply (session : Session) : Except SessionError Reply × Session :=
  (.ok (.output session.render), session)

/--
The content of a load command, in which a backslash and an n stand for a line
break.
-/
def loadedContent (command : Text) : Text :=
  Text.replaceAll ['\\', 'n'] ['\n'] (Text.trim (command.drop 4))

def runCommand (session : Session) (command : Text) :
    Except SessionError Reply × Session :=
  let name := Text.firstWord command
  if name.isEmpty then session.reply
  else if name = "quit" ∨ name = "q" then (.ok .exit, session)
  else if name = "reset" then
    { session with sandbox := session.sandbox.reset }.reply
  else if name = "load" then
    { session with
      sandbox :=
        session.sandbox.replaceContent (loadedContent command) }.reply
  else if name = "json" then { session with format := .json }.reply
  else if name = "text" then { session with format := .text }.reply
  else if name = "help" then (.ok (.output help), session)
  else (.error (.unknownCommand name), session)

def processLine (session : Session) (line : Text) (now : Duration) :
    Except SessionError Reply × Session :=
  let session := { session with sandbox := session.sandbox.tick now }
  match line with
  | '\\' :: command => session.runCommand (Text.trim command)
  | script =>
      match session.sandbox.typeScript script with
      | .ok (_, sandbox) => { session with sandbox := sandbox }.reply
      | .error error => (.error (.badScript script error), session)

end Session

end ModalEditing
