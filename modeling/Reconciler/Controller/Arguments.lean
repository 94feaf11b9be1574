import Reconciler.CommandLine.Reader
import Reconciler.CommandLine.Switches
import Reconciler.Kubeconfig.Arguments
/-!
The command line of the program that runs the controllers.
-/
namespace Reconciler

open CommandLine

namespace Controllers

/-- The controller that marks deployments; it runs by default. -/
def deploymentConditions : String := "deployment-conditions"

/-- The controller that protects config maps; it only runs if asked for. -/
def configMapFinalizer : String := "configmap-finalizer"

/-- The controllers. -/
def switches : Switches :=
  Switches.ofItems [deploymentConditions, Switches.disable configMapFinalizer]

/-- The command. -/
def command : Command where
  name := "example-controller"
  about := "Runs a single reconciliation pass of the enabled controllers"
  options :=
    [{ name := "controllers"
       description := "Controllers to run, e.g. `*,configmap-finalizer`"
       value := some (switches.valueForm "CONTROLLERS") },
     { name := "list", description := "Print the known controllers and exit" },
     { name := "objects"
       description := "Work on an in-memory store seeded from this file instead of a cluster"
       value := some (.path "OBJECTS") },
     { name := "namespace", value := some { name := "NAMESPACE", default := some "default" } }] ++
    ConnectionOptions.options

/-- What the controllers have to do. -/
structure Arguments where
  switches : Switches
  list : Bool
  /-- The file with the objects to work on. -/
  objects : Option String
  namespaceName : String
  connection : ConnectionOptions

/-- Read a command line. -/
def Arguments.read (arguments : List String) : Except UsageError Arguments := do
  let given ← command.read arguments
  let selected ← Controllers.switches.ofValue "" ((given.value? "controllers").getD Switches.all)
  return {
    switches := selected
    list := given.has "list"
    objects := given.value? "objects"
    namespaceName := (given.value? "namespace").getD ""
    connection := .ofGiven given }

end Controllers

end Reconciler
