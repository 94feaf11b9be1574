import Reconciler.Machine.Run
import Reconciler.Text.Quoted
/-!
Running tools.  A tool that fails is reported with everything that it printed.
-/
namespace Reconciler

/-- Why something that needs a tool fails. -/
inductive ToolError where
  /-- The tool could not be started. -/
  | spawn (command : String) (source : SystemError)
  /-- The tool failed. -/
  | failed (command output : String)
  /-- What the tool printed is not understood. -/
  | decode
  | moduleNotFound (name : String)
  | noModuleDirectory (name : String)
  | file (path : String) (source : SystemError)
  | noTemporaryDirectory
deriving DecidableEq

/-- The text of an error, if it is fixed. -/
def ToolError.message? : ToolError → Option String
  | .spawn command source => some ("failed to run " ++ command ++ ": " ++ source.message)
  | .failed command output => some ("error running " ++ command ++ ", output:\n" ++ output)
  | .decode | .noTemporaryDirectory => none
  | .moduleNotFound name => some ("module " ++ Text.quoted name ++ " not found")
  | .noModuleDirectory name => some ("module " ++ name ++ " does not specify a directory")
  | .file path source => some ("i/o error on " ++ path ++ ": " ++ source.message)

/-- An action that uses tools. -/
abbrev Tooling (α : Type) := ExceptT ToolError (StateM Machine) α

namespace Tooling

/-- The text of a command. -/
def describe (program : String) (arguments : List String) : String :=
  " ".intercalate (program :: arguments)

/-- Run a program in a directory, or in the current one: what it printed on its standard output. -/
def runOutput (directory : Option String) (program : String) (arguments : List String) :
    Tooling (List UInt8) := do
  match ← Machine.run directory program arguments with
  | .error source => throw (.spawn (describe program arguments) source)
  | .ok outcome =>
    if outcome.succeeded then return outcome.stdout
    throw (.failed (describe program arguments)
      (Text.Utf8.decodeLossy outcome.stdout ++ Text.Utf8.decodeLossy outcome.stderr))

/-- Run a program in a directory, or in the current one. -/
def run (directory : Option String) (program : String) (arguments : List String) : Tooling Unit :=
  discard (runOutput directory program arguments)

/-- What an operation on files brings. -/
def ofFiles {α : Type} (path : String) (result : Except SystemError α) : Tooling α :=
  ExceptT.mk (pure (result.mapError (.file path)))

end Tooling

end Reconciler
