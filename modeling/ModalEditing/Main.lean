import ModalEditing.Launch

/-!
The program: a practice console that reads key scripts and session commands line
by line.
-/

namespace ModalEditing.Console

def usage : String :=
  "Practice modal editing keys against a simulated buffer.\n\n" ++
  "Usage: modal-trainer [OPTIONS]\n\n" ++
  "Options:\n" ++
  "  -f, --file <FILE>      Starting buffer content\n" ++
  "  -c, --config <CONFIG>  Engine config (JSON)\n" ++
  "  -k, --keys <KEYS>      Apply these keys, print the result and exit\n" ++
  "      --json             Print snapshots as JSON\n" ++
  "      --lines <LINES>    Viewport height for text output [default: 20]\n" ++
  "  -h, --help             Print help\n" ++
  "  -V, --version          Print version"

def version : String := "modal-trainer 0.1.0"

def readFile? (path : Text) : IO (Option Text) := do
  try return some (← IO.FS.readFile (String.ofList path)).toList
  catch _ => return none

def readFiles (arguments : Arguments) : IO (List (Text × Option Text)) :=
  (arguments.config.toList ++ arguments.file.toList).mapM fun path => do
    return (path, ← readFile? path)

def elapsed (started : Nat) : IO Duration := do
  return .ofNanoseconds ((← IO.monoNanosNow) - started)

def fail (message : Text) : IO UInt32 := do
  IO.eprintln ("Error: " ++ String.ofList message)
  return 1

def withoutBreak (line : String) : Text :=
  let text := line.toList
  if text.getLast? = some '\n' then Text.dropReturn text.dropLast else text

partial def serve (started : Nat) (input output : IO.FS.Stream)
  (session : Session) : IO Unit := do
  let line ← input.getLine
  if line.isEmpty then return
  let (result, next) :=
    session.processLine (withoutBreak line) (← elapsed started)
  match result with
  | .ok .exit => return
  | .ok (.output text) => output.putStrLn (String.ofList text)
  | .error error => output.putStrLn ("error: " ++ String.ofList error.message)
  output.flush
  serve started input output next

def typeOnce (started : Nat) (session : Session)
    (script : Text) : IO UInt32 := do
  match (session.processLine script (← elapsed started)).1 with
  | .ok .exit => return 0
  | .ok (.output text) =>
      IO.println (String.ofList text)
      return 0
  | .error error => fail error.message

def run (arguments : Arguments) : IO UInt32 := do
  let files ← readFiles arguments
  match Session.launch (fun path => (files.lookup path).join) arguments with
  | .error error =>
      fail (error.message ++ (error.cause?.map (':' :: ' ' :: ·)).getD [])
  | .ok session =>
      let started ← IO.monoNanosNow
      match arguments.keys with
      | some script => typeOnce started session script
      | none =>
          IO.println (String.ofList session.render)
          serve started (← IO.getStdin) (← IO.getStdout) session
          return 0

end ModalEditing.Console

open ModalEditing in
def main (arguments : List String) : IO UInt32 := do
  match Arguments.ofCommandLine
    ("modal-trainer".toList :: arguments.map String.toList) with
  | .ok arguments => Console.run arguments
  | .error .help =>
      IO.println Console.usage
      return 0
  | .error .version =>
      IO.println Console.version
      return 0
  | .error .usage =>
      IO.eprintln Console.usage
      return 2
