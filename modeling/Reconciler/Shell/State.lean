import Reconciler.Shell.Arithmetic
import Reconciler.Shell.Pattern
import Reconciler.Shell.Script
import Reconciler.Shell.Utility
/-!
The state of a running shell: what is set, where its streams go, and what was written so far.
-/
namespace Reconciler.Shell

/-- Where a stream goes. -/
inductive Sink where
  | stdout
  | stderr
  /-- To the next command of a pipeline, or into a word. -/
  | pipe
  | file (place : Place)
  | nowhere
deriving DecidableEq

/-- Why a list of commands is not gone on with. -/
inductive Leaving where
  | shell
  /-- A signal ended the shell. -/
  | killed (signal : Nat)
  | function
  /-- So many loops are left, and the last one goes on or not. -/
  | loops (count : Nat) (goingOn : Bool)
deriving DecidableEq

/-- The state of a shell. -/
structure State where
  machine : Machine
  directory : Place
  /-- The name of the script, under which it complains. -/
  name : String := "sh"
  arguments : List String := []
  bindings : List (String × String) := []
  /-- The parameters that other programs see. -/
  exported : List String := []
  functions : List (String × Command) := []
  /-- What commands read. -/
  input : Input := .octets []
  /-- Where the streams for output and for complaints go. -/
  output : Sink := .stdout
  complaints : Sink := .stderr
  stdout : List UInt8 := []
  stderr : List UInt8 := []
  piped : Input := .octets []
  /-- The status of the last command, and of the last script within a word. -/
  status : Nat := 0
  wordStatus : Option Nat := none
  line : Nat := 1
  leaving : Option Leaving := none
  /-- How many loops are running. -/
  loops : Nat := 0
  /-- Whether a command that fails ends the shell, and whether its status is being tested now. -/
  strict : Bool := false
  tested : Bool := false
  /-- Whether unset parameters are mistakes. -/
  wary : Bool := false
  /-- A script that is run at the end. -/
  farewell : Option String := none

/-- A computation in a shell. -/
abbrev Action := StateM State

namespace State

/-- The identity of the shell's process. -/
def process : String := "1"

/-- The value of a parameter, if it is set. -/
def parameter? (state : State) (name : String) : Option String :=
  match name with
  | "#" => some (toString state.arguments.length)
  | "?" => some (toString state.status)
  | "$" => some process
  | "-" => some (if state.strict then "e" else "")
  | "!" => some ""
  | "*" | "@" =>
    if state.arguments.isEmpty then none else some (" ".intercalate state.arguments)
  | _ =>
    match name.toNat? with
    | some 0 => some state.name
    | some position => state.arguments[position - 1]?
    | none => (state.bindings.find? (·.1 = name)).map (·.2)

/-- Set a parameter. -/
def bind (state : State) (name value : String) : State :=
  { state with bindings := (name, value) :: state.bindings.filter (·.1 ≠ name) }

/-- Write octets somewhere. -/
def send (state : State) (sink : Sink) (octets : List UInt8) : State :=
  match sink with
  | .stdout => { state with stdout := state.stdout ++ octets }
  | .stderr => { state with stderr := state.stderr ++ octets }
  | .pipe => { state with piped := .octets (state.piped.all ++ octets) }
  | .nowhere => state
  | .file place =>
    let (before, mode) := match state.machine.files.get? place with
      | some (.file octets mode) => (octets, mode)
      | _ => ([], 0o644)
    let files := state.machine.files.put place (.file (before ++ octets) mode)
    { state with machine := { state.machine with files } }

/-- Complain in the name of the script. -/
def complain (state : State) (message : String) (status : Nat) : State :=
  let text := state.name ++ ": " ++ toString state.line ++ ": " ++ message ++ "\n"
  { state.send state.complaints (Text.Utf8.encode text) with status }

/-- Complain and end the shell. -/
def abort (state : State) (message : String) : State :=
  { state.complain message 2 with leaving := some .shell }

/-- The reason why a file cannot be opened, or made. -/
def refusal (error : SystemError) (making : Bool) : String :=
  match error with
  | .notFound | .notADirectory => if making then "Directory nonexistent" else "No such file"
  | error => Utility.reason error

/-- Open a file to write to it; what is in it is kept only if `append` says so. -/
def openFile (state : State) (path : String) (append : Bool) : Except String (Sink × State) :=
  let failing (error : SystemError) : String :=
    "cannot create " ++ path ++ ": " ++ refusal error true
  match state.machine.files.locate true state.directory path with
  | .error error => .error (failing error)
  | .ok ["dev", "stdout"] => .ok (state.output, state)
  | .ok ["dev", "stderr"] => .ok (state.complaints, state)
  | .ok place =>
    match state.machine.files.get? place with
    | some .directory => .error (failing .isADirectory)
    | some .sink => .ok (.nowhere, state)
    | found =>
      let (octets, mode) := match found with
        | some (.file octets mode) => (if append then octets else [], mode)
        | _ => ([], 0o644)
      let files := state.machine.files.put place (.file octets mode)
      .ok (.file place, { state with machine := { state.machine with files } })

/-- Let one of the two streams go somewhere. -/
def setSink (state : State) (stream : Nat) (sink : Sink) : State :=
  if stream = 2 then { state with complaints := sink }
  else if stream = 1 then { state with output := sink }
  else state

/-- Let a stream go where a word says: to another stream, or nowhere. -/
def duplicate (state : State) (stream : Nat) (other : String) : Except String State :=
  match other with
  | "1" => .ok (state.setSink stream state.output)
  | "2" => .ok (state.setSink stream state.complaints)
  | "-" =>
    .ok (if stream = 0 then { state with input := .octets [] } else state.setSink stream .nowhere)
  | "0" => .ok state
  | _ => if other.toNat?.isSome then .error (other ++ ": Bad file descriptor")
    else .error ("Syntax error: Bad fd number")

/-- Read a file. -/
def openInput (state : State) (path : String) : Except String State :=
  match state.machine.files.read state.directory path with
  | .ok octets => .ok { state with input := .octets octets }
  | .error error => .error ("cannot open " ++ path ++ ": " ++ refusal error false)

/-- Let the streams go again where they went in another state. -/
def withStreams (state before : State) : State :=
  { state with input := before.input, output := before.output, complaints := before.complaints }

/-- What a shell keeps of another one that it started and that has ended. -/
def afterChild (parent child : State) : State :=
  { parent with
    machine := child.machine
    stdout := child.stdout
    stderr := child.stderr
    piped := child.piped
    status := child.status
    leaving := match child.leaving with
      | some (.killed signal) => some (.killed signal)
      | _ => none }

end State

/-- A piece of an expanded word: a character, a place where fields are split, or a sign that there
is a field. -/
inductive Mark where
  | glyph (glyph : Glyph)
  | gap
  | field
deriving DecidableEq, Repr

namespace Mark

/-- Whether unquoted text is split at a character. -/
def isGap (c : Char) : Bool :=
  c = ' ' || c = '\t' || c = '\n'

/-- The marks of a text that stands for an expansion. -/
def ofText (quoted : Bool) (text : String) : List Mark :=
  text.toList.map fun c => if isGap c && !quoted then .gap else .glyph ⟨c, quoted⟩

/-- The fields that marks make, of which one may have begun. -/
def fields : Option Pattern → List Mark → List Pattern
  | current, [] => current.toList
  | current, .glyph next :: rest => fields (some (current.getD [] ++ [next])) rest
  | current, .field :: rest => fields (some (current.getD [])) rest
  | current, .gap :: rest => current.toList ++ fields none rest

/-- All marks as one pattern. -/
def pattern (marks : List Mark) : Pattern :=
  marks.filterMap fun
    | .glyph next => some next
    | .gap => some ⟨' ', false⟩
    | .field => none

end Mark

namespace State

/-- The paths that fit the parts of a pattern, below a place that was reached by a path. -/
def pathsBelow (state : State) : Place → String → List Pattern → List String
  | _, path, [] => [path]
  | place, path, part :: rest =>
    let slash := if rest.isEmpty then "" else "/"
    if part.isOpen then
      let names := (state.machine.files.children place).filter fun (name, _) =>
        part.fits name && !(name.startsWith "." && (part.head?.map (·.char)) ≠ some '.')
      let sorted := names.mergeSort fun a b => a.1 ≤ b.1
      sorted.flatMap fun (name, entry) =>
        if rest.isEmpty || entry = .directory then
          pathsBelow state (place ++ [name]) (path ++ name ++ slash) rest
        else []
    else
      let name := part.text
      let next := if name.isEmpty || name = "." then place else place ++ [name]
      if (state.machine.files.get? next).isSome then
        pathsBelow state next (path ++ name ++ slash) rest
      else []

/-- The fields that a pattern stands for: the paths that it fits, or else its text. -/
def pathsOf (state : State) (pattern : Pattern) : List String :=
  if !pattern.isOpen then [pattern.text]
  else
    let isAbsolute := (pattern.head?.map (·.char)) = some '/'
    match state.pathsBelow (if isAbsolute then [] else state.directory) "" pattern.splitPath with
    | [] => [pattern.text]
    | paths => paths

end State

end Reconciler.Shell
