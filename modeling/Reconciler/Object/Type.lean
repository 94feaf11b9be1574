import Reconciler.Object.BuiltIn
/-!
The types in which objects are handled: kinds with a table of their fields, types of which no more
is known than how they are read and written, objects of any kind, and plain JSON values.  Every type
has its values, a reader and a JSON form, and a path that tells it from all others.
-/
namespace Reconciler

/-- A name with capitals in words in small letters, joined by underscores. -/
def snakeCase (name : String) : String :=
  let spaced := name.toList.flatMap fun c =>
    if c.isUpper then ['_', c.toLower] else [c]
  String.ofList (spaced.drop 1)

/-- The path of the type of a built-in kind. -/
def GroupVersionKind.path (gvk : GroupVersionKind) : String :=
  let place :=
    if gvk.group = "" then "api::core"
    else if gvk.group = "rbac.authorization.k8s.io" then "api::rbac"
    else if gvk.group = "coordination.k8s.io" then "api::coordination"
    else if gvk.group = "apiextensions.k8s.io" then
      "apiextensions_apiserver::pkg::apis::apiextensions"
    else "api::" ++ gvk.group
  "k8s_openapi::v1_30::" ++ place ++ "::v1::" ++ snakeCase gvk.kind ++ "::" ++ gvk.kind

example : GroupVersionKind.path ⟨"", "v1", "PersistentVolumeClaim"⟩ =
    "k8s_openapi::v1_30::api::core::v1::persistent_volume_claim::PersistentVolumeClaim" := by
  decide +kernel

/-- Metadata, and data of which nothing is known. -/
structure Content where
  metadata : ObjectMeta := {}
  data : ObjectData := .empty
deriving DecidableEq

instance : Coe ObjectMeta Content := ⟨fun metadata => { metadata }⟩

/-- A type of objects by its reader and its writer.  What they do with the data is left open: a
reader may refuse objects, and drop or change fields. -/
structure PlainType where
  path : String
  /-- The kind that the type is made for, if it is made for one. -/
  own? : Option GroupVersionKind
  decode? : Json → Option Content
  toJson : Content → Json

/-- An object of such a type. -/
structure PlainObject (type : PlainType) extends Content

namespace PlainType

/-- The type for a kind that keeps all fields as they are. -/
def kept (gvk : GroupVersionKind) : PlainType where
  path := gvk.path
  own? := some gvk
  decode? json :=
    match json with
    | .obj fields => (typedHeader? gvk.types json).map fun metadata => ⟨metadata, .ofFields fields⟩
    | _ => none
  toJson content :=
    typedJson gvk.types content.metadata
      (content.data.fields.entries.map fun field => (field.1, some field.2))

/-- Pods, however they are read and written. -/
@[match_pattern]
abbrev pod {path : String} {decode? : Json → Option Content} {toJson : Content → Json} :
    PlainType :=
  ⟨path, some ⟨"", "v1", "Pod"⟩, decode?, toJson⟩

end PlainType

/-- The types of objects. -/
inductive ObjectType where
  /-- Objects of a kind, by the table of its fields. -/
  | known (kind : ObjectKind)
  | plain (type : PlainType)
  /-- Objects of any kind. -/
  | dynamic
  /-- JSON values. -/
  | json

namespace ObjectType

/-- Config maps, whatever their fields. -/
@[match_pattern]
abbrev configMap {table : Table} {legible : GroupVersionKind.Legible ⟨"", "v1", "ConfigMap"⟩}
    {names : ("apiVersion" :: "kind" :: "metadata" :: table.names).Nodup}
    {sound : table.sound = true} : ObjectType :=
  .known ⟨⟨"", "v1", "ConfigMap"⟩, table, legible, names, sound⟩

/-- The types of the built-in kinds. -/
def builtIn : List ObjectType :=
  [ .plain (.kept ⟨"", "v1", "Pod"⟩),
    .known ConfigMap.kind,
    .known Secret.kind,
    .plain (.kept ⟨"", "v1", "Service"⟩),
    .known ServiceAccount.kind,
    .known Namespace.kind,
    .plain (.kept ⟨"", "v1", "Node"⟩),
    .plain (.kept ⟨"", "v1", "Event"⟩),
    .plain (.kept ⟨"", "v1", "PersistentVolume"⟩),
    .plain (.kept ⟨"", "v1", "PersistentVolumeClaim"⟩),
    .known Endpoints.kind,
    .known (Deployment.kind .kept),
    .plain (.kept ⟨"apps", "v1", "StatefulSet"⟩),
    .plain (.kept ⟨"apps", "v1", "DaemonSet"⟩),
    .plain (.kept ⟨"apps", "v1", "ReplicaSet"⟩),
    .plain (.kept ⟨"batch", "v1", "Job"⟩),
    .plain (.kept ⟨"batch", "v1", "CronJob"⟩),
    .known Role.kind,
    .known RoleBinding.kind,
    .known ClusterRole.kind,
    .known ClusterRoleBinding.kind,
    .known Lease.kind,
    .plain (.kept ⟨"apiextensions.k8s.io", "v1", "CustomResourceDefinition"⟩)]

/-- The kind that a type is made for. -/
def own? : ObjectType → Option GroupVersionKind
  | .known kind => some kind.gvk
  | .plain type => type.own?
  | .dynamic | .json => none

/-- The type with a name; built-in types have the names of their kinds. -/
def ofName? (name : String) : Option ObjectType :=
  if name = "Dynamic" then some .dynamic
  else if name = "Json" then some .json
  else builtIn.find? fun type => type.own?.map (·.kind) = some name

/-- The name of a type with the place of its definition, which tells it from all others. -/
def path : ObjectType → String
  | .known kind => kind.gvk.path
  | .plain type => type.path
  | .dynamic => "kube_core::dynamic::DynamicObject"
  | .json => "serde_json::value::Value"

example : ((.dynamic :: .json :: builtIn).map path).Nodup := by decide +kernel

/-- The values of a type. -/
abbrev Value : ObjectType → Type
  | .known kind => KindObject kind
  | .plain type => PlainObject type
  | .dynamic => Object
  | .json => Json

/-- Read a value of a type. -/
def decode? : (type : ObjectType) → Json → Option type.Value
  | .known _, value => KindObject.decode? value
  | .plain type, value => (type.decode? value).map PlainObject.mk
  | .dynamic, value => Object.decode? value
  | .json, value => some value

/-- The JSON form of a value of a type. -/
def toJson : (type : ObjectType) → type.Value → Json
  | .known _, object => object.toJson
  | .plain type, object => type.toJson object.toContent
  | .dynamic, object => object.toJson
  | .json, value => value

/-- The metadata of a value of a type; a JSON value has none. -/
def metadata : (type : ObjectType) → type.Value → ObjectMeta
  | .known _, object => object.metadata
  | .plain _, object => object.metadata
  | .dynamic, object => object.metadata
  | .json, _ => {}

end ObjectType

end Reconciler
