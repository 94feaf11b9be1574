import Reconciler.CommandLine.Basic
import Reconciler.Switches
import Reconciler.Text.Utf8
/-!
Switches as the value of an option.
-/
namespace Reconciler

/-- The switches after the value of an option; `option` is how the option is shown. -/
def Switches.ofValue (switches : Switches) (option value : String) :
    Except CommandLine.UsageError Switches :=
  (switches.set value).mapError fun error =>
    CommandLine.UsageError.invalidValue option value error.message

/-- The switches after a value outside of any command line. -/
def Switches.ofOctets (switches : Switches) (octets : List UInt8) :
    Except CommandLine.UsageError Switches :=
  match Text.Utf8.decode? octets with
  | none => .error .invalidUtf8
  | some value => switches.ofValue "..." value

/-- A value that is a specification of switches; by default every switch has its default. -/
def Switches.valueForm (switches : Switches) (name : String) : CommandLine.ValueForm where
  name := name
  default := some Switches.all
  check option value := (switches.ofValue option value).map fun _ => ()

end Reconciler
