import Reconciler.Api.Client
import Reconciler.Client.Batch
import Reconciler.Controller.Arguments
import Reconciler.Controller.ConfigMaps
import Reconciler.Controller.Deployments
import Reconciler.Object.Stream
import Reconciler.Store.Client
/-!
The program that runs a single pass of the enabled controllers, on a store of objects from a file or
on a cluster.
-/
namespace Reconciler.Controllers

open CommandLine

/-- What a run of the program leaves. -/
structure Report where
  status : Nat := 0
  /-- What the controllers told. -/
  messages : List String := []
  stdout : List String := []
  stderr : List String := []
deriving DecidableEq, Repr

/-- The lines of a text below a number, or indented if there is no number. -/
def indented (number : Option Nat) (text : String) : List String :=
  let (first, next) := match number with
    | some number =>
      let digits := toString number
      ("".pushn ' ' (5 - digits.length) ++ digits ++ ": ", "       ")
    | none => ("    ", "    ")
  match text.splitOn "\n" with
  | [] => []
  | line :: lines => (first ++ line) :: lines.map (next ++ ·)

/-- The lines about a failure: what was being done, and what caused it. -/
def failureLines : Failure → List String
  | [] => []
  | what :: causes =>
    let shown := match causes with
      | [] => []
      | [cause] => "" :: "Caused by:" :: indented none cause
      | _ => "" :: "Caused by:" ::
        (causes.zipIdx.flatMap fun (cause, number) => indented (some number) cause)
    ("Error: " ++ what).splitOn "\n" ++ shown

/-- The report about a command line that is refused. -/
def Report.ofUsage : UsageError → Report
  | .help => { stdout := command.help }
  | error =>
    { status := 2
      stderr := error.message.splitOn "\n" ++ ["", "For more information, try '--help'."] }

/-- The report about the known controllers. -/
def Report.ofList (switches : Switches) : Report where
  stdout := switches.names.map fun name =>
    let default := if name ∈ switches.enabledByDefault then "on" else "off"
    name ++ " (default: " ++ default ++ ")"

/-- The report about a pass. -/
def Report.ofPass {σ : Type} (pass : Pass σ Unit) (state : σ) : Report :=
  match pass.on { state } with
  | (.ok (), progress) => { messages := progress.messages }
  | (.error failure, progress) =>
    { status := 1, messages := progress.messages, stderr := failureLines failure }

/-- Run the enabled controllers; deployments have pods of a form. -/
def run {σ : Type} (pod : PodForm) (client : Client σ) (now : Instant) (arguments : Arguments) :
    Pass σ Unit := do
  Pass.tell ("running controllers " ++ arguments.switches.text)
  if arguments.switches.enabled deploymentConditions then
    (Deployments.reconcile client pod now arguments.namespaceName).within
      "deployment conditions failed"
  if arguments.switches.enabled configMapFinalizer then
    (ConfigMaps.protect client arguments.namespaceName).within "configmap finalizers failed"

/-- Run the enabled controllers on objects that were read from a file. -/
def runOnObjects (pod : PodForm) (now : Instant) (arguments : Arguments) (path : String)
    (objects : Except StreamError (List Object)) : Pass Store Unit := do
  let client := Store.client .defaults
  discard ((Pass.doing (client.createRead objects {})).within
    ("failed to load objects from " ++ path))
  run pod client now arguments

/-- Run the program. -/
def program {m : Type → Type} [Monad m] (surroundings : Surroundings m) (now : Instant)
    (arguments : List String) : m Report := do
  match Arguments.read arguments with
  | .error error => return .ofUsage error
  | .ok arguments =>
    if arguments.list then return .ofList arguments.switches
    match arguments.objects with
    | some path =>
      let objects := Object.readAt path (← surroundings.read path)
      return .ofPass (runOnObjects .kept now arguments path objects) .empty
    | none =>
      match ← (surroundings.connection arguments.connection).run with
      | .error error =>
        return { status := 1, stderr := failureLines (error.message :: error.cause.chain) }
      | .ok _ => return .ofPass (run .kept (Api.client .defaults) now arguments) ⟨[], []⟩

end Reconciler.Controllers
