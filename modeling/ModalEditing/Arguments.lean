import ModalEditing.Text.Numeral
import ModalEditing.View

namespace ModalEditing

/-- What the command line of the program asks for. -/
structure Arguments where
  file : Option Text
  config : Option Text
  keys : Option Text
  json : Bool
  lines : Nat
  deriving DecidableEq, Repr

inductive ArgumentError where
  | help
  | version
  | usage
  deriving DecidableEq, Repr

inductive ValueOption where
  | file
  | config
  | keys
  | lines
  deriving DecidableEq, Repr

/-- The options read so far, each of which may be given once. -/
structure GivenOptions where
  file : Option Text
  config : Option Text
  keys : Option Text
  lines : Option Nat
  json : Bool
  deriving DecidableEq, Repr

namespace GivenOptions

def none : GivenOptions := ⟨.none, .none, .none, .none, false⟩

def toArguments (given : GivenOptions) : Arguments where
  file := given.file
  config := given.config
  keys := given.keys
  json := given.json
  lines := given.lines.getD View.standard.height

def setOnce (current : Option α) (value : Option α) : Option (Option α) :=
  if current.isSome then .none else value.map some

def set? (given : GivenOptions) (option : ValueOption)
    (value : Text) : Option GivenOptions :=
  let path := if value.isEmpty then Option.none else some value
  match option with
  | .file => (setOnce given.file path).map fun v => { given with file := v }
  | .config =>
      (setOnce given.config path).map fun v => { given with config := v }
  | .keys =>
      (setOnce given.keys (some value)).map fun v => { given with keys := v }
  | .lines =>
      (setOnce given.lines (Text.word? value)).map fun v =>
        { given with lines := v }

end GivenOptions

/-- What one argument is, apart from the options before it. -/
inductive ArgumentForm where
  | help
  | version
  | json
  /-- An option whose value is the next argument. -/
  | option (option : ValueOption)
  | optionWith (option : ValueOption) (value : Text)
  | separator
  | unknown
  deriving DecidableEq, Repr

namespace ArgumentForm

def longNames : List (Text × ArgumentForm) := [
  ("help", help), ("version", version), ("json", json), ("file", option .file),
  ("config", option .config), ("keys", option .keys), ("lines", option .lines)]

def shortNames : List (Char × ArgumentForm) := [
  ('h', help), ('V', version), ('f', option .file), ('c', option .config),
  ('k', option .keys)]

def withValue (form : ArgumentForm) (value : Text) : ArgumentForm :=
  match form with
  | option name => optionWith name value
  | _ => unknown

/--
Reads a long option behind its dashes: a name, and perhaps a value after an
equals sign.
-/
def ofLong (text : Text) : ArgumentForm :=
  let name := text.takeWhile (· != '=')
  match longNames.lookup name, text.drop name.length with
  | some form, [] => form
  | some form, _ :: value => form.withValue value
  | none, _ => unknown

/--
Reads a short option behind its dash: a letter, and perhaps a value behind it.
-/
def ofShort : Text → ArgumentForm
  | [] => unknown
  | letter :: rest =>
      match shortNames.lookup letter, rest with
      | some (option name), [] => option name
      | some (option name), '=' :: value => optionWith name value
      | some (option name), value => optionWith name value
      | some form, _ => form
      | none, _ => unknown

def ofText : Text → ArgumentForm
  | ['-', '-'] => separator
  | '-' :: '-' :: text => ofLong text
  | '-' :: text => ofShort text
  | _ => unknown

end ArgumentForm

/--
Whether an argument can be the value of the option before it: it is no option
itself.
-/
def isValue : Text → Bool
  | ['-'] => true
  | '-' :: _ => false
  | _ => true

namespace Arguments

def read (given : GivenOptions) : List Text → Except ArgumentError GivenOptions
  | [] => .ok given
  | text :: rest =>
      match ArgumentForm.ofText text with
      | .help => .error .help
      | .version => .error .version
      | .json =>
          if given.json then .error .usage
          else read { given with json := true } rest
      | .optionWith option value =>
          match given.set? option value with
          | some given => read given rest
          | none => .error .usage
      | .option option =>
          match rest with
          | [] => .error .usage
          | value :: rest =>
              match if isValue value then given.set? option value else none with
              | some given => read given rest
              | none => .error .usage
      | .separator => if rest.isEmpty then .ok given else .error .usage
      | .unknown => .error .usage

/--
Reads the arguments of the program, the first of which is the name it was called
by.
-/
def ofCommandLine (arguments : List Text) : Except ArgumentError Arguments :=
  (read .none arguments.tail).map GivenOptions.toArguments

end Arguments

end ModalEditing
