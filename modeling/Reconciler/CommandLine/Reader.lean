import Reconciler.CommandLine.Basic
/-!
Reading command lines.  The value of an option follows an equals sign or is the next argument, as
long as that does not look like an option.  A value is looked at only when the next known option
comes or the line ends, so that an unknown argument after it is what the line is refused for.
-/
namespace Reconciler.CommandLine

/-- The name in an argument `--name` or `--name=value`, and the value. -/
def long? (argument : String) : Option (String × Option String) :=
  match argument.toList with
  | '-' :: '-' :: c :: rest =>
    let name := (c :: rest).takeWhile (· ≠ '=')
    let attached := (c :: rest).drop name.length
    some (String.ofList name,
      if attached.isEmpty then none else some (String.ofList (attached.drop 1)))
  | _ => none

/-- The letter that an argument `-x` begins with. -/
def short? (argument : String) : Option Char :=
  match argument.toList with
  | '-' :: c :: _ => if c = '-' then none else some c
  | _ => none

/-- An option whose value may still come. -/
structure Pending where
  option : Opt
  value : Option String := none

/-- Take an option with its value. -/
def take (given : Given) (option : Opt) (value : Option String) : Except UsageError Given := do
  if option.value.isSome && value.isNone then throw (.missingValue option.text)
  if given.has option.name then throw (.repeated option.text)
  if option.name = helpOption.name then throw .help
  match option.value, value with
  | some form, some value => form.check option.text value
  | _, _ => pure ()
  return given ++ [(option.name, value)]

/-- Take the option that waits. -/
def settle (given : Given) : Option Pending → Except UsageError Given
  | none => .ok given
  | some pending => take given pending.option pending.value

/-- Read the arguments of a command, after some options were given. -/
def readFrom (command : Command) :
    Given → Option Pending → List String → Except UsageError Given
  | given, pending, [] => settle given pending
  | given, pending, argument :: rest =>
    if argument = "--" then
      match rest with
      | [] => settle given pending
      | other :: _ => .error (.unknownArgument other)
    else
      match long? argument, short? argument with
      | some (name, value), _ =>
        match command.option? name with
        | none => .error (.unknownArgument ("--" ++ name))
        | some option =>
          match option.value, value with
          | some _, none => do
            readFrom command (← settle given pending) (some { option }) rest
          | none, some value => .error (.unexpectedValue option.text value)
          | _, _ => do
            readFrom command (← take (← settle given pending) option value) none rest
      | none, some letter =>
        if letter = 'h' then do
          readFrom command (← take (← settle given pending) helpOption none) none rest
        else .error (.unknownArgument (String.ofList ['-', letter]))
      | none, none =>
        match pending with
        | some ⟨option, none⟩ => readFrom command given (some ⟨option, some argument⟩) rest
        | _ => .error (.unknownArgument argument)

/-- Put the defaults in for options that were not given. -/
def withDefaults (command : Command) (given : Given) : Given :=
  given ++ command.options.filterMap fun option =>
    if given.has option.name then none
    else (option.value.bind (·.default)).map fun value => (option.name, some value)

/-- Read the arguments of a command. -/
def Command.read (command : Command) (arguments : List String) : Except UsageError Given :=
  (readFrom command [] none arguments).map (withDefaults command)

end Reconciler.CommandLine
