import Reconciler.Client.Batch
import Reconciler.Json.Lenient
/-!
Options and requests in JSON form.  Options are read leniently: what is not set, or not
understood, has its default.
-/
namespace Reconciler

/-- Why a JSON value is no request. -/
inductive FormError where
  /-- An object in it does not have the form of its type. -/
  | malformed
  | unknown
  | scheme (source : SchemeError)
deriving DecidableEq, Repr

/-- The kind with settings. -/
def GroupVersionKind.ofJson (json : Json) : GroupVersionKind :=
  ⟨json.text "group", json.text "version", json.text "kind"⟩

/-- The JSON form of a kind, with its API version. -/
def GroupVersionKind.toJson (gvk : GroupVersionKind) : Json :=
  .ofFields [("group", .str gvk.group), ("version", .str gvk.version), ("kind", .str gvk.kind),
    ("apiVersion", .str gvk.apiVersion)]

/-- The key with settings. -/
def ObjectKey.ofJson (json : Json) : ObjectKey :=
  ⟨json.text? "namespace", json.text "name"⟩

/-- The JSON form of a key, with its text. -/
def ObjectKey.toJson (key : ObjectKey) : Json :=
  .ofFields [("namespace", .optional key.namespaceName), ("name", .str key.name),
    ("text", .str key.text)]

/-- The JSON form of a reference, with its text. -/
def ObjectRef.toJson (reference : ObjectRef) : Json :=
  .ofFields [("group", .str reference.groupKind.group), ("kind", .str reference.groupKind.kind),
    ("key", reference.key.toJson), ("text", .str reference.text)]

/-- The scheme with settings: the empty one or the default one. -/
def Scheme.ofJson (json : Json) : Scheme :=
  if json.text "scheme" = "empty" then .empty else .defaults

/-- The type that a setting names; objects of any kind if it is not set. -/
def ObjectType.ofJson (json : Json) (name : String) : Except FormError ObjectType :=
  match json.text? name with
  | none => .ok .dynamic
  | some name => (ofName? name).elim (.error .unknown) .ok

/-- The object of a type that a setting holds. -/
def ObjectType.valueOfJson (type : ObjectType) (json : Json) (name : String) :
    Except FormError type.Value :=
  (type.decode? (json.get name)).elim (.error .malformed) .ok

/-- The object that a setting holds.  Its data can be taken away. -/
def Object.ofJson (json : Json) : Except FormError Object :=
  match decode? (json.get "obj") with
  | some object => .ok (if json.flag "nullData" then { object with data := none } else object)
  | none => .error .malformed

/-- The get request with settings: a kind or a type with a key, or an object. -/
def GetRequest.ofJson (scheme : Scheme) (json : Json) : Except FormError GetRequest := do
  match json.field? "key", json.field? "gvk" with
  | some key, some gvk => return .dynamic (.ofJson gvk) (.ofJson key)
  | some key, none =>
    (typed scheme (← ObjectType.ofJson json "type") (.ofJson key)).mapError .scheme
  | none, _ =>
    let type ← ObjectType.ofJson json "type"
    (ofObject scheme type (← type.valueOfJson json "obj")).mapError .scheme

/-- The options of writing with settings. -/
def PostParams.ofJson (json : Json) : PostParams :=
  { dryRun := json.flag "dryRun", fieldManager := json.text? "fieldManager" }

/-- The options of patching with settings. -/
def PatchParams.ofJson (json : Json) : PatchParams :=
  { dryRun := json.flag "dryRun"
    force := json.flag "force"
    fieldManager := json.text? "fieldManager"
    fieldValidation := [.strict, .warn, .ignore].find? fun validation : FieldValidation =>
      json.text? "fieldValidation" = some validation.name }

/-- The preconditions in a JSON object. -/
def Preconditions.ofJson? : Json → Option Preconditions
  | .obj fields => some
    { uid := (Json.obj fields).text? "uid"
      resourceVersion := (Json.obj fields).text? "resourceVersion" }
  | _ => none

/-- The options of deleting with settings. -/
def DeleteParams.ofJson (json : Json) : DeleteParams :=
  { dryRun := json.flag "dryRun"
    gracePeriodSeconds := json.nat? "gracePeriodSeconds"
    preconditions := Preconditions.ofJson? (json.get "preconditions")
    propagationPolicy := [.orphan, .background, .foreground].find? fun policy : PropagationPolicy =>
      json.text? "propagationPolicy" = some policy.name }

/-- The options of listing with settings. -/
def ListOptions.ofJson (json : Json) : ListOptions :=
  { namespaceName := json.text? "namespace"
    labelSelector := json.text? "labels"
    fieldSelector := json.text? "fields"
    timeout := json.nat? "timeout"
    limit := json.nat? "limit"
    continueToken := json.text? "continue"
    resourceVersion := json.text? "resourceVersion"
    versionMatch := [.exact, .notOlderThan].find? fun versionMatch : VersionMatch =>
      json.text? "versionMatch" = some versionMatch.name }

/-- The name of the way in which a patch changes an object. -/
def Patch.name : Patch → String
  | .merge _ => "merge"
  | .apply _ => "apply"
  | .strategic _ => "strategic"

/-- The JSON form of a patch. -/
def Patch.toJson (patch : Patch) : Json :=
  .ofFields [("type", .str patch.name), ("body", patch.body)]

/-- The patch in JSON form. -/
def Patch.ofJson (json : Json) : Except FormError Patch :=
  let body := json.get "body"
  ([.merge body, .apply body, .strategic body].find? fun patch : Patch =>
    json.text? "type" = some patch.name).elim (.error .unknown) .ok

/-- The patch request with settings; an object is applied as it is if no patch is set. -/
def PatchRequest.ofJson (json : Json) : Except FormError PatchRequest := do
  let object ← Object.ofJson json
  match json.field? "patch" with
  | some patch => return ⟨object, ← Patch.ofJson patch⟩
  | none => return .applying object

end Reconciler
