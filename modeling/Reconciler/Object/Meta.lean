import Reconciler.Json.Decode
import Reconciler.Time.Rfc3339
/-!
The metadata of an object: its name and namespace, its labels, who owns it, and what keeps it from
being deleted.
-/
namespace Reconciler

/-- An instant as JSON text with so many decimal places. -/
def Json.time (places : Nat) (t : Instant) : Json :=
  .str (Rfc3339.write places t)

/-- An instant from JSON text. -/
def Json.asTime? (value : Json) : Option Instant :=
  value.asString?.bind Rfc3339.parseRelaxed?

/-- A reference to an owner of an object. -/
structure OwnerReference where
  apiVersion : String
  kind : String
  name : String
  uid : String
  controller : Option Bool := none
  blockOwnerDeletion : Option Bool := none
deriving DecidableEq, Inhabited

namespace OwnerReference

/-- Read a reference; an unset text is empty. -/
def decode? (json : Json) : Option OwnerReference := do
  let json ← json.asObject?
  return {
    apiVersion := ← json.defaulted? Json.asString? "" "apiVersion"
    kind := ← json.defaulted? Json.asString? "" "kind"
    name := ← json.defaulted? Json.asString? "" "name"
    uid := ← json.defaulted? Json.asString? "" "uid"
    controller := ← json.optional? Json.asBool? "controller"
    blockOwnerDeletion := ← json.optional? Json.asBool? "blockOwnerDeletion" }

/-- The JSON form, always with the four texts. -/
def toJson (reference : OwnerReference) : Json :=
  .present [
    ("apiVersion", some (.str reference.apiVersion)),
    ("kind", some (.str reference.kind)),
    ("name", some (.str reference.name)),
    ("uid", some (.str reference.uid)),
    ("controller", reference.controller.map .bool),
    ("blockOwnerDeletion", reference.blockOwnerDeletion.map .bool)]

end OwnerReference

/-- Which fields of an object a manager has set. -/
structure ManagedFields where
  apiVersion : Option String := none
  fieldsType : Option String := none
  fieldsV1 : Option Json := none
  manager : Option String := none
  operation : Option String := none
  subresource : Option String := none
  time : Option Instant := none
deriving DecidableEq

namespace ManagedFields

/-- Read an entry. -/
def decode? (json : Json) : Option ManagedFields := do
  let json ← json.asObject?
  return {
    apiVersion := ← json.optional? Json.asString? "apiVersion"
    fieldsType := ← json.optional? Json.asString? "fieldsType"
    fieldsV1 := ← json.optional? some "fieldsV1"
    manager := ← json.optional? Json.asString? "manager"
    operation := ← json.optional? Json.asString? "operation"
    subresource := ← json.optional? Json.asString? "subresource"
    time := ← json.optional? Json.asTime? "time" }

/-- The JSON form. -/
def toJson (managed : ManagedFields) : Json :=
  .present [
    ("apiVersion", managed.apiVersion.map .str),
    ("fieldsType", managed.fieldsType.map .str),
    ("fieldsV1", managed.fieldsV1),
    ("manager", managed.manager.map .str),
    ("operation", managed.operation.map .str),
    ("subresource", managed.subresource.map .str),
    ("time", managed.time.map (.time 0))]

end ManagedFields

/-- The metadata of an object. -/
structure ObjectMeta where
  annotations : Option StringMap := none
  creationTimestamp : Option Instant := none
  deletionGracePeriodSeconds : Option Int := none
  deletionTimestamp : Option Instant := none
  finalizers : Option (List String) := none
  generateName : Option String := none
  generation : Option Int := none
  labels : Option StringMap := none
  managedFields : Option (List ManagedFields) := none
  name : Option String := none
  namespaceName : Option String := none
  ownerReferences : Option (List OwnerReference) := none
  resourceVersion : Option String := none
  selfLink : Option String := none
  uid : Option String := none
deriving DecidableEq, Inhabited

namespace ObjectMeta

/-- Read metadata; unknown fields are dropped. -/
def decode? (json : Json) : Option ObjectMeta := do
  let json ← json.asObject?
  return {
    annotations := ← json.optional? (Json.asMap? Json.asString?) "annotations"
    creationTimestamp := ← json.optional? Json.asTime? "creationTimestamp"
    deletionGracePeriodSeconds := ← json.optional? (Json.asInt? 64) "deletionGracePeriodSeconds"
    deletionTimestamp := ← json.optional? Json.asTime? "deletionTimestamp"
    finalizers := ← json.optional? (Json.asList? Json.asString?) "finalizers"
    generateName := ← json.optional? Json.asString? "generateName"
    generation := ← json.optional? (Json.asInt? 64) "generation"
    labels := ← json.optional? (Json.asMap? Json.asString?) "labels"
    managedFields := ← json.optional? (Json.asList? ManagedFields.decode?) "managedFields"
    name := ← json.optional? Json.asString? "name"
    namespaceName := ← json.optional? Json.asString? "namespace"
    ownerReferences := ← json.optional? (Json.asList? OwnerReference.decode?) "ownerReferences"
    resourceVersion := ← json.optional? Json.asString? "resourceVersion"
    selfLink := ← json.optional? Json.asString? "selfLink"
    uid := ← json.optional? Json.asString? "uid" }

/-- The JSON form; instants are cut off to whole seconds. -/
def toJson (metadata : ObjectMeta) : Json :=
  .present [
    ("annotations", metadata.annotations.map .stringMap),
    ("creationTimestamp", metadata.creationTimestamp.map (.time 0)),
    ("deletionGracePeriodSeconds", metadata.deletionGracePeriodSeconds.map .int),
    ("deletionTimestamp", metadata.deletionTimestamp.map (.time 0)),
    ("finalizers", metadata.finalizers.map .strings),
    ("generateName", metadata.generateName.map .str),
    ("generation", metadata.generation.map .int),
    ("labels", metadata.labels.map .stringMap),
    ("managedFields", metadata.managedFields.map fun entries =>
      .arr (entries.map ManagedFields.toJson)),
    ("name", metadata.name.map .str),
    ("namespace", metadata.namespaceName.map .str),
    ("ownerReferences", metadata.ownerReferences.map fun references =>
      .arr (references.map OwnerReference.toJson)),
    ("resourceVersion", metadata.resourceVersion.map .str),
    ("selfLink", metadata.selfLink.map .str),
    ("uid", metadata.uid.map .str)]

/-- The name, or else the beginning of a name to be generated, or else nothing. -/
def nameAny (metadata : ObjectMeta) : String :=
  (metadata.name.or metadata.generateName).getD ""

/-- The labels; unset is none. -/
def labelMap (metadata : ObjectMeta) : StringMap :=
  metadata.labels.getD .empty

/-- The finalizers; unset is none. -/
def finalizerList (metadata : ObjectMeta) : List String :=
  metadata.finalizers.getD []

/-- The owner reference that is marked as the controller. -/
def controller? (metadata : ObjectMeta) : Option OwnerReference :=
  (metadata.ownerReferences.getD []).find? fun reference => reference.controller = some true

end ObjectMeta

end Reconciler
