import Reconciler.CommandLine.Basic
import Reconciler.Kubeconfig.Connection
/-!
The options of a command line that say which connection is asked for.
-/
namespace Reconciler.ConnectionOptions

open CommandLine

/-- The options. -/
def options : List Opt :=
  [{ name := "kubeconfig"
     description := "Path to a kubeconfig file"
     value := some (.path "KUBECONFIG") },
   { name := "context"
     description := "Kubeconfig context to use"
     value := some { name := "CONTEXT" } }]

/-- What was given. -/
def ofGiven (given : Given) : ConnectionOptions where
  context := given.value? "context"
  kubeconfig := given.value? "kubeconfig"

end Reconciler.ConnectionOptions
