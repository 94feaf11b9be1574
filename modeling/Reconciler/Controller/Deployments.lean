import Reconciler.Condition.List
import Reconciler.Controller.Pass
/-!
The controller that marks every deployment with a condition: whether it has available replicas.
-/
namespace Reconciler.Deployments

open Condition (Accessor AccessError Update)

/-- The type of the condition. -/
def conditionType : String := "Reconciled"

/-- The status of the condition and its reason. -/
def judge (available : Int) : Condition.Status × String :=
  if 0 < available then (.true, "Available") else (.false, "NoReplicas")

variable {pod : PodForm}

/-- How many replicas a deployment has available, none if it does not say. -/
def available (deployment : Deployment pod) : Int :=
  (deployment.status.bind Deployment.Status.availableReplicas).getD 0

/-- What the condition of a deployment has to say. -/
def updates (deployment : Deployment pod) : List Update :=
  let (status, reason) := judge (available deployment)
  [.status status, .reason reason,
    .message (toString (available deployment) ++ " available replicas")]

/-- A deployment with its condition. -/
def marked (now : Instant) (deployment : Deployment pod) :
    Except AccessError (Deployment pod) :=
  let status : Deployment.Status := deployment.status.getD Deployment.statusTable.blank
  let (result, conditions) := ({} : Accessor).updateOptionalList now (.typed .deployment)
    conditionType (updates deployment) status.conditions
  result.map fun _ => deployment.withStatus (some (status.withConditions conditions))

variable {σ : Type} (client : Client σ)

/-- Mark one deployment. -/
def reconcileOne (now : Instant) (deployment : Deployment pod) : Pass σ Unit := do
  let marked ← ExceptT.mk (pure ((marked now deployment).mapError AccessError.chain))
  discard (Pass.doing (client.updateObjectStatus (.known (Deployment.kind pod)) marked {}))
  Pass.tell ("deployment " ++ deployment.metadata.nameAny ++ ": " ++ conditionType ++ " is " ++
    (judge (available deployment)).1.name)

/-- Mark the deployments of a namespace, or all of them. -/
def reconcile (pod : PodForm) (now : Instant) (namespaceName : String) : Pass σ Unit := do
  let deployments ← Pass.doing (client.listObjects (.known (Deployment.kind pod))
    { namespaceName := some namespaceName })
  deployments.forM fun deployment => reconcileOne client now deployment

end Reconciler.Deployments
