import Reconciler.Machine.Basic
/-!
What the usual small programs read and write.
-/
namespace Reconciler.Shell

/-- What a program reads: so many octets, or one line over and over. -/
inductive Input where
  | octets (octets : List UInt8)
  | endless (line : List UInt8)

/-- The octets of an input; an endless one has none that a program could wait for. -/
def Input.all : Input → List UInt8
  | .octets all => all
  | .endless _ => []

/-- Split octets into lines, each with its line feed. -/
def linesOf (octets : List UInt8) : List (List UInt8) :=
  let (lines, last) := octets.foldr (fun octet (lines, current) =>
    if octet = 10 then (if current.isEmpty then lines else current :: lines, [octet])
    else (lines, octet :: current)) (([], []) : List (List UInt8) × List UInt8)
  if last.isEmpty then lines else last :: lines

/-- The first lines of an input. -/
def Input.lines (input : Input) (count : Nat) : List UInt8 :=
  match input with
  | .octets all => ((linesOf all).take count).flatten
  | .endless line => (List.replicate count line).flatten

/-- The first octets of an input. -/
def Input.first (input : Input) (count : Nat) : List UInt8 :=
  match input with
  | .octets all => all.take count
  | .endless line => (List.replicate (count / (max line.length 1) + 1) line).flatten.take count

/-- What a program writes: octets, or one line over and over, as long as somebody reads it. -/
structure Written where
  stdout : Input := .octets []
  stderr : String := ""
  status : Nat := 0
  /-- The files afterwards, if they changed. -/
  files : Option Files := none

namespace Utility

/-- Write octets. -/
def put (octets : List UInt8) : Written :=
  { stdout := .octets octets }

/-- Write a text. -/
def putText (text : String) : Written :=
  put (Text.Utf8.encode text)

/-- Complain. -/
def fail (message : String) (status : Nat) : Written :=
  { stderr := message ++ "\n", status }

/-- Write something and complain too. -/
def both (octets : List UInt8) (complaints : List String) : Written :=
  { stdout := .octets octets
    stderr := "".intercalate (complaints.map (· ++ "\n"))
    status := if complaints.isEmpty then 0 else 1 }

/-- The text of a failure without its number. -/
def reason (error : SystemError) : String :=
  ((error.message.splitOn " (os error").head?).getD error.message

/-- Split arguments into options and operands. -/
def splitOptions (arguments : List String) : List String × List String :=
  let options := arguments.takeWhile fun argument => argument.startsWith "-" && argument ≠ "-"
  (options, arguments.drop options.length)

/-- Whether one of some options has a letter. -/
def hasOption (options : List String) (letter : Char) : Bool :=
  options.any fun option => option.contains letter

variable (machine : Machine) (directory : Place)

/-- The contents of files or the input, and the complaints about the files. -/
def sources (name : String) (paths : List String) (input : Input) :
    List (List UInt8) × List String :=
  if paths.isEmpty then ([input.all], [])
  else
    let found := paths.map fun path =>
      if path = "-" then .ok input.all
      else (machine.files.read directory path).mapError fun error =>
        name ++ ": " ++ path ++ ": " ++ reason error
    (found.filterMap Except.toOption, found.filterMap fun
      | .error complaint => some complaint
      | .ok _ => none)

end Utility

end Reconciler.Shell
