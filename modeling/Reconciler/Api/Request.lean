import Reconciler.Api.Resource
import Reconciler.Client.Basic
import Reconciler.Http.Message
import Reconciler.Http.Target
/-!
The requests that operations on objects send to an API server.  Some combinations of options are
refused before anything is sent.
-/
namespace Reconciler.Api

/-- The objects of a kind, in one namespace or in all. -/
structure Collection where
  gvk : GroupVersionKind
  namespaceName : Option String
deriving DecidableEq, Repr

namespace Collection

/-- The path of a collection. -/
def path (collection : Collection) : String :=
  collectionPath collection.gvk collection.namespaceName

/-- The collection that an object belongs to, by its type information and its namespace. -/
def ofObject (object : Object) : Except SchemeError Collection :=
  object.gvk.map fun gvk => ⟨gvk, object.metadata.namespaceName⟩

end Collection

/-- The requests that can be made. -/
abbrev Built := Except ApiError Http.Request

/-- Refuses a request for a reason that is known. -/
def refuse {α : Type} (message : String) : Except ApiError α :=
  .error (.buildRequest (some message))

/-- A name must not be empty. -/
def validateName (name : String) : Except ApiError Unit :=
  if name.isEmpty then refuse "A non-empty name is required" else .ok ()

/-- A field manager has at most 128 octets. -/
def validateManager (params : String) (manager : Option String) : Except ApiError Unit :=
  if manager.any fun name => 128 < name.utf8ByteSize then
    refuse ("Failed to validate " ++ params ++ "::field_manager!")
  else .ok ()

/-- The request with a target, which must be well-formed. -/
def build (method : Http.Method) (target : String) (request : Http.Request → Http.Request) :
    Built :=
  match Http.target? target with
  | some uri => .ok (request { method, uri })
  | none => .error (.buildRequest none)

/-- The target of a path with a query; the question mark is there even without pairs. -/
def withQuery (path : String) (query : Http.Query) : String :=
  path ++ "?" ++ Http.writeQuery query

/-- The pair of an option that is set. -/
def pair (name : String) (value : Option String) : Http.Query :=
  value.toList.map (name, ·)

/-- The pair of an option that is switched on. -/
def flag (isSet : Bool) (name value : String) : Http.Query :=
  if isSet then [(name, value)] else []

/-- The query of a list.  The version is not sent together with a token, and version zero not
together with a limit. -/
def listQuery (options : ListOptions) : Http.Query :=
  let version :=
    match options.continueToken, options.resourceVersion with
    | some token, _ => [("continue", token)]
    | none, some version =>
      if version = "0" ∧ options.limit.isSome then []
      else ("resourceVersion", version) ::
        pair "resourceVersionMatch" (options.versionMatch.map VersionMatch.name)
    | none, none => []
  pair "fieldSelector" options.fieldSelector ++ pair "labelSelector" options.labelSelector ++
    pair "limit" (options.limit.map toString) ++ version

/-- Which versions can be asked for. -/
def validateVersion (options : ListOptions) : Except ApiError Unit :=
  match options.resourceVersion with
  | some version =>
    if version = "0" ∧ options.versionMatch = some .exact then
      refuse "A non-zero resource_version is required when using an Exact match"
    else .ok ()
  | none =>
    if options.versionMatch.isSome then
      refuse "A resource_version is required when using an explicit match"
    else .ok ()

/-- The query of writing an object. -/
def postQuery (params : PostParams) : Http.Query :=
  flag params.dryRun "dryRun" "All" ++ pair "fieldManager" params.fieldManager

/-- The query of patching an object. -/
def patchQuery (params : PatchParams) : Http.Query :=
  flag params.dryRun "dryRun" "All" ++ flag params.force "force" "true" ++
    pair "fieldManager" params.fieldManager ++
    pair "fieldValidation" (params.fieldValidation.map FieldValidation.name)

/-- The media type of JSON. -/
def jsonType : String := "application/json"

/-- The media type of a patch. -/
def patchType : Patch → String
  | .merge _ => "application/merge-patch+json"
  | .apply _ => "application/apply-patch+yaml"
  | .strategic _ => "application/strategic-merge-patch+json"

/-- The JSON form of deletion options. -/
def deleteJson (params : DeleteParams) : Json :=
  let preconditions (p : Preconditions) : Json :=
    .ofFields ((pair "resourceVersion" p.resourceVersion ++ pair "uid" p.uid).map
      fun pair => (pair.1, .str pair.2))
  .ofFields (
    (if params.dryRun then [("dryRun", .arr [.str "All"])] else []) ++
    params.gracePeriodSeconds.toList.map (("gracePeriodSeconds", .int ·)) ++
    params.propagationPolicy.toList.map (fun policy => ("propagationPolicy", .str policy.name)) ++
    params.preconditions.toList.map (fun p => ("preconditions", preconditions p)))

/-- A request with a JSON body. -/
def withJson (body : Json) (request : Http.Request) : Http.Request :=
  { request with contentType := some jsonType, body := some body }

namespace Collection

variable (collection : Collection)

/-- The request for an object. -/
def getRequest (name : String) : Built := do
  validateName name
  build .get (collection.path ++ "/" ++ name) id

/-- The request for the objects. -/
def listRequest (options : ListOptions) : Built := do
  validateVersion options
  build .get (withQuery collection.path (listQuery options)) id

/-- The request to create an object. -/
def createRequest (object : Object) (params : PostParams) : Built := do
  validateManager "PostParams" params.fieldManager
  build .post (withQuery collection.path (postQuery params)) (withJson object.toJson)

/-- The request to replace an object, or a part of it. -/
def replaceRequest (name part : String) (object : Object) (params : PostParams) : Built := do
  validateName name
  build .put (withQuery (collection.path ++ "/" ++ name ++ part) (postQuery params))
    (withJson object.toJson)

/-- The request to patch an object, or a part of it. -/
def patchRequest (name part : String) (patch : Patch) (params : PatchParams) : Built := do
  validateName name
  validateManager "PatchParams" params.fieldManager
  if params.force ∧ patchType patch ≠ patchType (.apply .null) then
    refuse "PatchParams::force only works with Patch::Apply"
  build .patch (withQuery (collection.path ++ "/" ++ name ++ part) (patchQuery params))
    fun request => { request with
      contentType := some (patchType patch), accept := some jsonType, body := some patch.body }

/-- The request to delete an object. -/
def deleteRequest (name : String) (params : DeleteParams) : Built := do
  validateName name
  build .delete (withQuery (collection.path ++ "/" ++ name) []) (withJson (deleteJson params))

/-- The request to delete the objects; the body is empty if no option is set. -/
def deleteAllRequest (options : ListOptions) (params : DeleteParams) : Built :=
  let query := pair "fieldSelector" options.fieldSelector ++
    pair "labelSelector" options.labelSelector
  build .delete (withQuery collection.path query) fun request => { request with
    contentType := some jsonType
    body := if params = {} then none else some (deleteJson params) }

end Collection

end Reconciler.Api
