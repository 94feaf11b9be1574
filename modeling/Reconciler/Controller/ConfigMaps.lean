import Reconciler.Client.Finalizer
import Reconciler.Controller.Pass
/-!
The controller that protects labelled config maps with a finalizer.
-/
namespace Reconciler.ConfigMaps

/-- The label that asks for protection. -/
def protectLabel : String := "example.io/protect"

/-- The finalizer that protects. -/
def finalizer : String := "example.io/protect"

/-- Protect one config map. -/
def protectOne {σ : Type} (client : Client σ) (configMap : ConfigMap) : Pass σ Unit := do
  let (added, metadata) := configMap.metadata.addFinalizer finalizer
  if added then
    let marked : ConfigMap := { configMap with metadata }
    discard (Pass.doing (client.updateObject (.known ConfigMap.kind) marked {}))
    Pass.tell ("protected configmap " ++ configMap.metadata.nameAny)

/-- Protect the labelled config maps of a namespace, or all of them. -/
def protect {σ : Type} (client : Client σ) (namespaceName : String) : Pass σ Unit := do
  let configMaps ← Pass.doing (client.listObjects (.known ConfigMap.kind)
    { namespaceName := some namespaceName, labelSelector := some protectLabel })
  configMaps.forM fun configMap => protectOne client configMap

end Reconciler.ConfigMaps
