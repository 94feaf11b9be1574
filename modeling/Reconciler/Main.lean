import Reconciler.Controller.Program
/-!
The program that runs a single pass of the enabled controllers.
-/
namespace Reconciler

/-- The failure that an exception of the system reports. -/
def SystemError.ofException : IO.Error → SystemError
  | .permissionDenied .. => .permissionDenied
  | .inappropriateType .. => .isADirectory
  | _ => .notFound

/-- Read a file. -/
def readPath (path : String) : IO (Except SystemError (List UInt8)) := do
  match ← (IO.FS.readBinFile path).toBaseIO with
  | .ok octets => return .ok octets.toList
  | .error error => return .error (.ofException error)

/-- The surroundings of the program. -/
def surroundings : IO (Surroundings IO) := do
  return { read := readPath, listed := ← IO.getEnv "KUBECONFIG", home := ← IO.getEnv "HOME" }

/-- The present by the clock of the machine, which counts from when the machine started. -/
def present : IO Instant := do
  return (Instant.ofSeconds 0).step (← IO.monoMsNow)

/-- Show a report. -/
def Controllers.Report.print (report : Controllers.Report) : IO Unit := do
  report.messages.forM fun message => IO.println ("INFO example_controller: " ++ message)
  report.stdout.forM fun line => IO.println line
  report.stderr.forM fun line => IO.eprintln line

end Reconciler

def main (arguments : List String) : IO UInt32 := do
  let report ← Reconciler.Controllers.program (← Reconciler.surroundings) (← Reconciler.present)
    arguments
  report.print
  return report.status.toUInt32
