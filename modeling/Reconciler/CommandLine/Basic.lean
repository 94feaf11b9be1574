import Reconciler.Text.Quoted
/-!
Command lines of long options.  An option takes a value or is a flag; every option may be given
once.
-/
namespace Reconciler.CommandLine

/-- Why a command line is refused. -/
inductive UsageError where
  | unknownArgument (argument : String)
  | missingValue (option : String)
  /-- An option is given more than once. -/
  | repeated (option : String)
  /-- A flag is given a value. -/
  | unexpectedValue (option value : String)
  | invalidValue (option value reason : String)
  | invalidUtf8
  /-- Not an error: the description of the command is asked for. -/
  | help
deriving DecidableEq, Repr

/-- The text of a refusal. -/
def UsageError.message : UsageError → String
  | .unknownArgument argument => "error: unexpected argument '" ++ argument ++ "' found"
  | .missingValue option =>
    "error: a value is required for '" ++ option ++ "' but none was supplied"
  | .repeated option => "error: the argument '" ++ option ++ "' cannot be used multiple times"
  | .unexpectedValue option value =>
    "error: unexpected value '" ++ value ++ "' for '" ++ option ++
      "' found; no more were expected"
  | .invalidValue option value reason =>
    "error: invalid value " ++ Text.quoted value ++ " for '" ++ option ++ "': " ++ reason
  | .invalidUtf8 => "error: invalid UTF-8 was detected in one or more arguments"
  | .help => ""

/-- What is known of the value of an option. -/
structure ValueForm where
  /-- How the value is called. -/
  name : String
  /-- The value where the option is not given. -/
  default : Option String := none
  /-- Refuse a value; the text of the option comes first. -/
  check : String → String → Except UsageError Unit := fun _ _ => .ok ()

/-- An option. -/
structure Opt where
  name : String
  description : String := ""
  /-- What the value is; a flag has none. -/
  value : Option ValueForm := none

/-- How an option is shown. -/
def Opt.text (option : Opt) : String :=
  "--" ++ option.name ++ (option.value.map fun value => " <" ++ value.name ++ ">").getD ""

/-- A value that is a path, which may not be empty. -/
def ValueForm.path (name : String) : ValueForm where
  name := name
  check option value := if value.isEmpty then .error (.missingValue option) else .ok ()

/-- The option that asks for the description. -/
def helpOption : Opt where
  name := "help"
  description := "Print help"

/-- A command. -/
structure Command where
  name : String
  about : String := ""
  options : List Opt

namespace Command

/-- The option with a name; every command can be asked for its description. -/
def option? (command : Command) (name : String) : Option Opt :=
  (command.options ++ [helpOption]).find? (·.name = name)

/-- The description of an option, with its default. -/
def describe (option : Opt) : String :=
  let default := option.value.bind (·.default)
  " ".intercalate ([option.description].filter (!·.isEmpty) ++
    (default.map fun value => "[default: " ++ value ++ "]").toList)

/-- The description of a command: its purpose, its usage, and a line for every option. -/
def help (command : Command) : List String :=
  let shown (option : Opt) : String :=
    (if option.name = helpOption.name then "  -h, " else "      ") ++ option.text
  let options := command.options ++ [helpOption]
  let width := (options.map fun option => (shown option).length).foldl max 0
  [command.about, "", "Usage: " ++ command.name ++ " [OPTIONS]", "", "Options:"] ++
    options.map fun option =>
      (shown option).pushn ' ' (width - (shown option).length) ++ "  " ++ describe option

end Command

/-- The options that were given, with their values. -/
abbrev Given := List (String × Option String)

namespace Given

/-- Whether an option was given. -/
def has (given : Given) (name : String) : Bool :=
  given.any (·.1 = name)

/-- The value of an option that was given. -/
def value? (given : Given) (name : String) : Option String :=
  (given.find? (·.1 = name)).bind (·.2)

end Given

end Reconciler.CommandLine
