import Reconciler.Shell.Run
/-!
Starting programs.  A name without a slash is looked up among the installed programs; every other
one is a path.
-/
namespace Reconciler.Machine

/-- Where programs are installed. -/
def installed : Place := ["bin"]

/-- The place of a program, started in a directory. -/
def programPlace (machine : Machine) (directory : Place) (program : String) :
    Except SystemError Place :=
  if program.isEmpty then .error .notFound
  else if program.contains '/' then machine.files.locate true directory program
  else .ok (installed ++ [program])

/-- The directory that a program is to be started in. -/
def startDirectory (machine : Machine) (directory : Option String) : Except SystemError Place :=
  match directory with
  | none => .ok machine.directory
  | some path => do
    match ← machine.files.find machine.directory path with
    | (place, .directory) => return place
    | _ => throw .notADirectory

/-- The program to start, with the directory to start it in. -/
def prepare (machine : Machine) (directory : Option String) (program : String)
    (arguments : List String) : Except SystemError (Program × Place) := do
  if (program :: directory.getD "" :: arguments).any (·.contains '\x00') then
    throw .zeroInArgument
  let start ← machine.startDirectory directory
  let place ← machine.programPlace start program
  match machine.files.get? place with
  | some (.program program) => return (program, start)
  | some _ => throw .permissionDenied
  | none => throw .notFound

/-- Start a program and wait until it ends. -/
def run (directory : Option String) (program : String) (arguments : List String) :
    StateM Machine (Except SystemError Outcome) := do
  let machine ← get
  match machine.prepare directory program arguments with
  | .error error => return .error error
  | .ok (found, start) =>
    let (outcome, machine) := match found with
      | .shell => Shell.call machine start program arguments
      | .scripted replies => machine.callScripted replies start arguments
      | .utility name =>
        let written := Shell.Utility.runProgram machine start name arguments (.octets [])
        ({ stdout := written.stdout.all
           stderr := Text.Utf8.encode written.stderr
           status := some written.status },
          { machine with files := written.files.getD machine.files })
    set machine
    return .ok outcome

/-- A machine with the usual directories and programs, and nothing else. -/
def standard : Machine :=
  let directories := ["bin", "dev", "etc", "home", "opt", "proc", "root", "run", "sys", "tmp",
    "usr", "var"].map fun name => ([name], Entry.directory)
  let programs := Shell.Utility.programs.map fun name =>
    (installed ++ [name], Entry.program (.utility name))
  { files := ⟨directories ++ (installed ++ ["sh"], .program .shell) :: programs ++
      [(["dev", "null"], .sink), (["usr", "bin"], .link "/bin")]⟩ }

end Reconciler.Machine
