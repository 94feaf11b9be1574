import Reconciler.Object.Typed
/-!
The built-in kinds whose objects are read and written by their fields.
-/
namespace Reconciler

namespace ConfigMap

/-- The fields of a config map. -/
def table : Table :=
  .optional "binaryData" (.map .bytes) <|
  .optional "data" (.map .text) <|
  .optional "immutable" .truth .nil

/-- The kind of config maps. -/
def kind : ObjectKind where
  gvk := ⟨"", "v1", "ConfigMap"⟩
  table := table
  legible := by decide +kernel
  names := by decide +kernel
  sound := by decide +kernel

end ConfigMap

/-- A config map. -/
abbrev ConfigMap := KindObject ConfigMap.kind

namespace Secret

/-- The fields of a secret. -/
def table : Table :=
  .optional "data" (.map .bytes) <|
  .optional "immutable" .truth <|
  .optional "stringData" (.map .text) <|
  .optional "type" .text .nil

/-- The kind of secrets. -/
def kind : ObjectKind where
  gvk := ⟨"", "v1", "Secret"⟩
  table := table
  legible := by decide +kernel
  names := by decide +kernel
  sound := by decide +kernel

end Secret

namespace Namespace

/-- What keeps a namespace from being deleted. -/
def specTable : Table :=
  .optional "finalizers" (.list .text) .nil

/-- The state of a namespace. -/
def statusTable : Table :=
  .optional "conditions" (.list (.condition .namespace)) <|
  .optional "phase" .text .nil

/-- The fields of a namespace. -/
def table : Table :=
  .optional "spec" (.record specTable) <|
  .optional "status" (.record statusTable) .nil

/-- The kind of namespaces. -/
def kind : ObjectKind where
  gvk := ⟨"", "v1", "Namespace"⟩
  table := table
  legible := by decide +kernel
  names := by decide +kernel
  sound := by decide +kernel

end Namespace

/-- A reference to an object, or to a part of it. -/
def referenceTable : Table :=
  .optional "apiVersion" .text <|
  .optional "fieldPath" .text <|
  .optional "kind" .text <|
  .optional "name" .text <|
  .optional "namespace" .text <|
  .optional "resourceVersion" .text <|
  .optional "uid" .text .nil

/-- A reference to an object of the same namespace. -/
def localReferenceTable : Table :=
  .optional "name" .text .nil

namespace ServiceAccount

/-- The fields of a service account. -/
def table : Table :=
  .optional "automountServiceAccountToken" .truth <|
  .optional "imagePullSecrets" (.list (.record localReferenceTable)) <|
  .optional "secrets" (.list (.record referenceTable)) .nil

/-- The kind of service accounts. -/
def kind : ObjectKind where
  gvk := ⟨"", "v1", "ServiceAccount"⟩
  table := table
  legible := by decide +kernel
  names := by decide +kernel
  sound := by decide +kernel

end ServiceAccount

namespace Endpoints

/-- An address that serves. -/
def addressTable : Table :=
  .optional "hostname" .text <|
  .required "ip" .text <|
  .optional "nodeName" .text <|
  .optional "targetRef" (.record referenceTable) .nil

/-- A port that is served. -/
def portTable : Table :=
  .optional "appProtocol" .text <|
  .optional "name" .text <|
  .required "port" (.whole 32) <|
  .optional "protocol" .text .nil

/-- Addresses that serve the same ports. -/
def subsetTable : Table :=
  .optional "addresses" (.list (.record addressTable)) <|
  .optional "notReadyAddresses" (.list (.record addressTable)) <|
  .optional "ports" (.list (.record portTable)) .nil

/-- The fields of endpoints. -/
def table : Table :=
  .optional "subsets" (.list (.record subsetTable)) .nil

/-- The kind of endpoints. -/
def kind : ObjectKind where
  gvk := ⟨"", "v1", "Endpoints"⟩
  table := table
  legible := by decide +kernel
  names := by decide +kernel
  sound := by decide +kernel

end Endpoints

/-- Which labels are asked for. -/
def selectorTable : Table :=
  .optional "matchExpressions" (.list <| .record <|
    .required "key" .text <|
    .required "operator" .text <|
    .optional "values" (.list .text) .nil) <|
  .optional "matchLabels" (.map .text) .nil

/-- A form of the specifications of pods, of which nothing else is known. -/
structure PodForm where
  form : Form
  sound : form.sound = true

/-- Specifications of pods that are kept as they are. -/
def PodForm.kept : PodForm := ⟨.object, rfl⟩

namespace Deployment

/-- The pods to be made. -/
def templateTable (pod : PodForm) : Table :=
  .optional "metadata" .metadata <|
  .optional "spec" pod.form .nil

/-- How pods are replaced. -/
def strategyTable : Table :=
  .optional "rollingUpdate" (.record <|
    .optional "maxSurge" .numberOrText <|
    .optional "maxUnavailable" .numberOrText .nil) <|
  .optional "type" .text .nil

/-- What a deployment should be. -/
def specTable (pod : PodForm) : Table :=
  .optional "minReadySeconds" (.whole 32) <|
  .optional "paused" .truth <|
  .optional "progressDeadlineSeconds" (.whole 32) <|
  .optional "replicas" (.whole 32) <|
  .optional "revisionHistoryLimit" (.whole 32) <|
  .required "selector" (.record selectorTable) <|
  .optional "strategy" (.record strategyTable) <|
  .required "template" (.record (templateTable pod)) .nil

/-- What a deployment is. -/
def statusTable : Table :=
  .optional "availableReplicas" (.whole 32) <|
  .optional "collisionCount" (.whole 32) <|
  .optional "conditions" (.list (.condition .deployment)) <|
  .optional "observedGeneration" (.whole 64) <|
  .optional "readyReplicas" (.whole 32) <|
  .optional "replicas" (.whole 32) <|
  .optional "unavailableReplicas" (.whole 32) <|
  .optional "updatedReplicas" (.whole 32) .nil

/-- The fields of a deployment. -/
def table (pod : PodForm) : Table :=
  .optional "spec" (.record (specTable pod)) <|
  .optional "status" (.record statusTable) .nil

/-- Deployments are sound whatever the form of their pods. -/
theorem sound_table (pod : PodForm) : (table pod).sound = true := by
  simp [table, specTable, templateTable, strategyTable, statusTable, selectorTable, Table.names,
    Table.sound, Form.sound, Form.hasBlank, pod.sound]

/-- The kind of deployments. -/
def kind (pod : PodForm) : ObjectKind where
  gvk := ⟨"apps", "v1", "Deployment"⟩
  table := table pod
  legible := by decide +kernel
  names := by simp [table, Table.names]
  sound := sound_table pod

/-- The state of a deployment. -/
abbrev Status := statusTable.Row

namespace Status

/-- How many replicas are available. -/
def availableReplicas (status : Status) : Option Int :=
  status.1

/-- The conditions. -/
def conditions (status : Status) : Option (List Condition.Record) :=
  status.2.2.1

/-- The state with other conditions. -/
def withConditions (status : Status) (conditions : Option (List Condition.Record)) : Status :=
  (status.1, status.2.1, conditions, status.2.2.2)

end Status

end Deployment

/-- A deployment. -/
abbrev Deployment (pod : PodForm) := KindObject (Deployment.kind pod)

namespace Deployment

variable {pod : PodForm}

/-- The state of a deployment. -/
def status (deployment : Deployment pod) : Option Status :=
  deployment.row.2.1

/-- The deployment with another state. -/
def withStatus (deployment : Deployment pod) (status : Option Status) : Deployment pod :=
  { deployment with row := (deployment.row.1, status, deployment.row.2.2) }

end Deployment

namespace Lease

/-- Who holds a lease, and for how long. -/
def specTable : Table :=
  .optional "acquireTime" .micros <|
  .optional "holderIdentity" .text <|
  .optional "leaseDurationSeconds" (.whole 32) <|
  .optional "leaseTransitions" (.whole 32) <|
  .optional "renewTime" .micros .nil

/-- The fields of a lease. -/
def table : Table :=
  .optional "spec" (.record specTable) .nil

/-- The kind of leases. -/
def kind : ObjectKind where
  gvk := ⟨"coordination.k8s.io", "v1", "Lease"⟩
  table := table
  legible := by decide +kernel
  names := by decide +kernel
  sound := by decide +kernel

end Lease

/-- What a role allows. -/
def ruleTable : Table :=
  .optional "apiGroups" (.list .text) <|
  .optional "nonResourceURLs" (.list .text) <|
  .optional "resourceNames" (.list .text) <|
  .optional "resources" (.list .text) <|
  .required "verbs" (.list .text) .nil

/-- The rules of a role. -/
def rulesTable : Table :=
  .optional "rules" (.list (.record ruleTable)) .nil

/-- To whom a role is given, and which one. -/
def bindingTable : Table :=
  .required "roleRef" (.record <|
    .required "apiGroup" .text <|
    .required "kind" .text <|
    .required "name" .text .nil) <|
  .optional "subjects" (.list <| .record <|
    .optional "apiGroup" .text <|
    .required "kind" .text <|
    .required "name" .text <|
    .optional "namespace" .text .nil) .nil

namespace Role

/-- The kind of roles. -/
def kind : ObjectKind where
  gvk := ⟨"rbac.authorization.k8s.io", "v1", "Role"⟩
  table := rulesTable
  legible := by decide +kernel
  names := by decide +kernel
  sound := by decide +kernel

end Role

namespace RoleBinding

/-- The kind of role bindings. -/
def kind : ObjectKind where
  gvk := ⟨"rbac.authorization.k8s.io", "v1", "RoleBinding"⟩
  table := bindingTable
  legible := by decide +kernel
  names := by decide +kernel
  sound := by decide +kernel

end RoleBinding

namespace ClusterRole

/-- The fields of a role of the whole cluster. -/
def table : Table :=
  .optional "aggregationRule" (.record <|
    .optional "clusterRoleSelectors" (.list (.record selectorTable)) .nil) rulesTable

/-- The kind of roles of the whole cluster. -/
def kind : ObjectKind where
  gvk := ⟨"rbac.authorization.k8s.io", "v1", "ClusterRole"⟩
  table := table
  legible := by decide +kernel
  names := by decide +kernel
  sound := by decide +kernel

end ClusterRole

namespace ClusterRoleBinding

/-- The kind of role bindings of the whole cluster. -/
def kind : ObjectKind where
  gvk := ⟨"rbac.authorization.k8s.io", "v1", "ClusterRoleBinding"⟩
  table := bindingTable
  legible := by decide +kernel
  names := by decide +kernel
  sound := by decide +kernel

end ClusterRoleBinding

end Reconciler
