import Reconciler.Shell.Utility.Files
import Reconciler.Shell.Utility.Lines
import Reconciler.Shell.Utility.Test
/-!
The usual small programs by their names.
-/
namespace Reconciler.Shell

namespace Utility

/-- The names of the utilities that are programs of their own. -/
def programs : List String :=
  ["true", "false", "echo", "printf", "cat", "head", "tail", "ls", "test", "[", "grep", "pwd",
    "sleep", "yes", "wc", "sort", "tr", "seq", "basename", "dirname", "mkdir", "touch", "rm", "cp",
    "mv", "tee"]

/-- The utilities that a shell has itself. -/
def builtins : List String :=
  [":", "true", "false", "echo", "printf", "test", "[", "pwd"]

/-- Whether a utility reads the input to its end. -/
def reads (name : String) (arguments : List String) : Bool :=
  let operands := (splitOptions arguments).2
  match name with
  | "cat" | "wc" | "sort" => operands.isEmpty || "-" ∈ operands
  | "head" | "tail" => (amountOf arguments).2.isEmpty
  | "grep" => operands.length ≤ 1
  | "tr" | "tee" => true
  | _ => false

variable (machine : Machine) (directory : Place)

/-- Run a utility. -/
def run (name : String) (arguments : List String) (input : Input) : Written :=
  match name with
  | "false" => { status := 1 }
  | "echo" => put (Format.echo arguments)
  | "printf" =>
    match arguments with
    | format :: arguments =>
      let printed := Format.printf format arguments
      both printed.octets (printed.complaints.map ("printf: " ++ ·))
    | [] => fail "printf: usage: printf format [arg ...]" 2
  | "cat" => cat machine directory arguments input
  | "head" => excerpt machine directory "head" beginning arguments input
  | "tail" => excerpt machine directory "tail" ending arguments input
  | "ls" => ls machine directory arguments
  | "test" => test machine directory name arguments
  | "[" =>
    if arguments.getLast? = some "]" then test machine directory name arguments.dropLast
    else fail "[: missing ]" 2
  | "grep" => grep machine directory arguments input
  | "pwd" => putText (Machine.pathOf directory ++ "\n")
  | "wc" => wc machine directory arguments input
  | "sort" => sort machine directory arguments input
  | "tr" => tr arguments input
  | "seq" => seq arguments
  | "basename" => basename arguments
  | "dirname" => dirname arguments
  | "mkdir" => mkdir machine directory arguments
  | "touch" => touch machine directory arguments
  | "rm" => rm machine directory arguments
  | "cp" => copy machine directory false name arguments
  | "mv" => copy machine directory true name arguments
  | "tee" =>
    let written := changing machine (fun files path =>
      (files.locate true directory path).mapError (fun error =>
        "tee: " ++ path ++ ": " ++ reason error) |>.map fun place =>
          files.put place (.file input.all 0o644)) (splitOptions arguments).2
    { written with stdout := .octets input.all }
  | "yes" =>
    let line := if arguments.isEmpty then "y" else " ".intercalate arguments
    { stdout := .endless (Text.Utf8.encode (line ++ "\n")) }
  | _ => {}

/-- Run a utility as a program of its own, where `echo` leaves backslashes as they are. -/
def runProgram (name : String) (arguments : List String) (input : Input) : Written :=
  match name, arguments with
  | "echo", "-n" :: rest => putText (" ".intercalate rest)
  | "echo", "-e" :: rest => put (Format.echo rest)
  | "echo", all => putText (" ".intercalate all ++ "\n")
  | _, _ => run machine directory name arguments input

end Utility

end Reconciler.Shell
