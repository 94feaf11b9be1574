import Reconciler.Machine.Files
import Reconciler.Text.Utf8
/-!
A machine that programs run on: its files, and notes of how scripted programs were called.
-/
namespace Reconciler

/-- A machine. -/
structure Machine where
  files : Files := {}
  /-- The current directory. -/
  directory : Place := []
  /-- Where temporary directories are made; none can be made if that is unset. -/
  temporary : Option Place := some ["tmp"]
  /-- The notes of the scripted programs. -/
  notes : List String := []

/-- What a program leaves when it ends. -/
structure Outcome where
  stdout : List UInt8 := []
  stderr : List UInt8 := []
  /-- The status, unless a signal ended the program. -/
  status : Option Nat := some 0
deriving DecidableEq

namespace Outcome

/-- Whether the program succeeded. -/
def succeeded (outcome : Outcome) : Bool :=
  outcome.status = some 0

/-- A program that complains and ends with a status. -/
def failing (text : String) (status : Nat) : Outcome :=
  { stderr := Text.Utf8.encode text, status := some status }

end Outcome

namespace Machine

/-- The path of a place. -/
def pathOf (place : Place) : String :=
  "/" ++ "/".intercalate place

/-- Put something at a place, and directories on the way to it. -/
def put (machine : Machine) (place : Place) (entry : Entry) : Machine :=
  { machine with files := machine.files.putDeep place entry }

/-- Put a text file at a place. -/
def putText (machine : Machine) (place : Place) (text : String) : Machine :=
  machine.put place (.file (Text.Utf8.encode text) 0o644)

/-- The files below the directory that a program runs in, as a scripted program notes them. -/
def listing (machine : Machine) (directory : Place) : List String :=
  let lines := (machine.files.regularBelow directory).map fun (place, mode) =>
    String.ofList (Nat.toDigits 8 mode) ++ " ./" ++ "/".intercalate place
  lines.mergeSort fun a b => a ≤ b

/-- Call a scripted program. -/
def callScripted (machine : Machine) (replies : List Reply) (directory : Place)
    (arguments : List String) : Outcome × Machine :=
  let call := " ".intercalate arguments
  let reply := (replies.find? fun reply => call.startsWith reply.arguments).getD
    { arguments := "" }
  let listed := if reply.lists then machine.listing directory else []
  ({ stdout := Text.Utf8.encode reply.stdout
     stderr := Text.Utf8.encode reply.stderr
     status := some reply.status },
    { machine with notes := machine.notes ++ call.splitOn "\n" ++ listed })

/-- Make a temporary directory and give it to an action; it is removed afterwards.  Without a place
for it there is no result. -/
def withTemporary {α : Type} (name : String) (action : Place → StateM Machine α) :
    StateM Machine (Option α) := do
  match (← get).temporary with
  | none => return none
  | some above =>
    let place := above ++ [name]
    modify fun machine => { machine with files := machine.files.put place .directory }
    let result ← action place
    modify fun machine => { machine with files := machine.files.remove place }
    return some result

end Machine

end Reconciler
