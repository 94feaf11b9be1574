import Reconciler.Client.ErrorChain
import Reconciler.Client.Typed
/-!
Passes of controllers: operations of a client, with messages about what was done.  A pass that fails
has told about everything before the failure.
-/
namespace Reconciler

/-- How far a pass came. -/
structure Progress (σ : Type) where
  state : σ
  messages : List String := []

/-- Why a pass fails: what was being done, and the chain of errors below it. -/
abbrev Failure := List String

/-- A pass. -/
abbrev Pass (σ α : Type) := Attempt Failure (Progress σ) α

namespace Pass

variable {σ α : Type}

/-- Let a client do something. -/
def doing (action : Action σ α) : Pass σ α :=
  ExceptT.mk fun progress =>
    let (result, state) := action.on progress.state
    (result.mapError ClientError.chain, { progress with state })

/-- Tell about something. -/
def tell (message : String) : Pass σ Unit :=
  ExceptT.mk fun progress => (.ok (), { progress with messages := progress.messages ++ [message] })

/-- Say what was being done if a pass fails. -/
def within (what : String) (pass : Pass σ α) : Pass σ α :=
  ExceptT.adapt (what :: ·) pass

end Pass

end Reconciler
