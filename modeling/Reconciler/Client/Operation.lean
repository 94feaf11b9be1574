import Reconciler.Client.Settings
import Reconciler.Client.Typed
/-!
The operations of a client as values, so that they can be read from JSON, kept in lists and
performed later.  Everything an operation needs is read before it is performed.
-/
namespace Reconciler

/-- An operation of a client. -/
inductive Operation where
  | get (gvk : GroupVersionKind) (key : ObjectKey)
  | list (gvk : GroupVersionKind) (options : ListOptions)
  | create (object : Object) (params : PostParams)
  | update (object : Object) (params : PostParams)
  | updateStatus (object : Object) (params : PostParams)
  | patch (object : Object) (change : Patch) (params : PatchParams)
  | patchStatus (object : Object) (change : Patch) (params : PatchParams)
  | delete (object : Object) (params : DeleteParams)
  | deleteAllOf (gvk : GroupVersionKind) (options : ListOptions) (params : DeleteParams)
  | getObject (type : ObjectType) (key : ObjectKey)
  | listObjects (type : ObjectType) (options : ListOptions)
  | createObject (type : ObjectType) (object : type.Value) (params : PostParams)
  | updateObject (type : ObjectType) (object : type.Value) (params : PostParams)
  | updateObjectStatus (type : ObjectType) (object : type.Value) (params : PostParams)
  | deleteObject (type : ObjectType) (object : type.Value) (params : DeleteParams)
  | deleteAllObjects (type : ObjectType) (options : ListOptions) (params : DeleteParams)
  | createMultiple (objects : Except StreamError (List Object)) (params : PostParams)
  | getMultiple (requests : List GetRequest)
  | getRead (objects : Except StreamError (List Object))
  | patchMultiple (requests : List PatchRequest) (params : PatchParams)
  | applyRead (objects : Except StreamError (List Object)) (params : PatchParams)
  | deleteMultiple (objects : Except StreamError (List Object)) (params : DeleteParams)

namespace Operation

variable {σ : Type}

/-- The JSON form of objects. -/
def objectsJson (objects : List Object) : Json :=
  .arr (objects.map Object.toJson)

/-- An action whose result says nothing. -/
def silent (action : Action σ Unit) : Action σ Json := do
  action
  return .null

/-- Perform an operation: its result in JSON form. -/
def perform (client : Client σ) : Operation → Action σ Json
  | .get gvk key => Object.toJson <$> client.get gvk key
  | .list gvk options => objectsJson <$> client.list gvk options
  | .create object params => Object.toJson <$> client.create object params
  | .update object params => Object.toJson <$> client.update object params
  | .updateStatus object params => Object.toJson <$> client.updateStatus object params
  | .patch object change params => Object.toJson <$> client.patch object change params
  | .patchStatus object change params => Object.toJson <$> client.patchStatus object change params
  | .delete object params => silent (client.delete object params)
  | .deleteAllOf gvk options params => silent (client.deleteAllOf gvk options params)
  | .getObject type key => type.toJson <$> client.getObject type key
  | .listObjects type options => do
    return .arr ((← client.listObjects type options).map type.toJson)
  | .createObject type object params => type.toJson <$> client.createObject type object params
  | .updateObject type object params => type.toJson <$> client.updateObject type object params
  | .updateObjectStatus type object params =>
    type.toJson <$> client.updateObjectStatus type object params
  | .deleteObject type object params => silent (client.deleteObject type object params)
  | .deleteAllObjects type options params => silent (client.deleteAllObjects type options params)
  | .createMultiple objects params => objectsJson <$> client.createRead objects params
  | .getMultiple requests => objectsJson <$> client.getMultiple requests
  | .getRead objects => objectsJson <$> client.getRead objects
  | .patchMultiple requests params => objectsJson <$> client.patchMultiple requests params
  | .applyRead objects params => objectsJson <$> client.patchRead objects applyAll params
  | .deleteMultiple objects params => silent (client.deleteRead objects params)

/-- The operation on one object, or on all objects of a kind, that a JSON object describes. -/
def single? (json : Json) : Option (Except FormError Operation) :=
  let gvk := GroupVersionKind.ofJson (json.get "gvk")
  let options := ListOptions.ofJson (json.get "opts")
  let post := PostParams.ofJson (json.get "pp")
  let patching := PatchParams.ofJson (json.get "pp")
  let deleting := DeleteParams.ofJson (json.get "dp")
  match json.text "do" with
  | "get" => some (.ok (.get gvk (.ofJson (json.get "key"))))
  | "list" => some (.ok (.list gvk options))
  | "create" => some do return .create (← Object.ofJson json) post
  | "update" => some do return .update (← Object.ofJson json) post
  | "update_status" => some do return .updateStatus (← Object.ofJson json) post
  | "patch" => some do
    return .patch (← Object.ofJson json) (← Patch.ofJson (json.get "patch")) patching
  | "patch_status" => some do
    return .patchStatus (← Object.ofJson json) (← Patch.ofJson (json.get "patch")) patching
  | "delete" => some do return .delete (← Object.ofJson json) deleting
  | "delete_all_of" => some (.ok (.deleteAllOf gvk options deleting))
  | _ => none

/-- The type of the objects that an operation is about: it must be a type for objects of a single
kind. -/
def typeOfJson (json : Json) : Except FormError ObjectType := do
  match ← ObjectType.ofJson json "type" with
  | .dynamic | .json => throw .unknown
  | type => return type

/-- The operation on objects of a type that a JSON object describes. -/
def typed? (json : Json) : Option (Except FormError Operation) :=
  let type := typeOfJson json
  let options := ListOptions.ofJson (json.get "opts")
  let post := PostParams.ofJson (json.get "pp")
  let deleting := DeleteParams.ofJson (json.get "dp")
  let onObject (next : (type : ObjectType) → type.Value → Operation) :
      Except FormError Operation := do
    let type ← type
    return next type (← type.valueOfJson json "obj")
  match json.text "do" with
  | "get_object" => some do return .getObject (← type) (.ofJson (json.get "key"))
  | "list_objects" => some do return .listObjects (← type) options
  | "create_object" => some (onObject fun type object => .createObject type object post)
  | "update_object" => some (onObject fun type object => .updateObject type object post)
  | "update_object_status" =>
    some (onObject fun type object => .updateObjectStatus type object post)
  | "delete_object" => some (onObject fun type object => .deleteObject type object deleting)
  | "delete_all_objects" => some do return .deleteAllObjects (← type) options deleting
  | _ => none

/-- The objects of a list. -/
def objects (json : Json) : Except FormError (List Object) :=
  (json.items "objs").mapM fun object => (Object.decode? object).elim (.error .malformed) .ok

/-- The operation on several objects that a JSON object describes; `stream` are the objects that
were read for it, if it is about a stream. -/
def batch? (scheme : Scheme) (stream : Option (Except StreamError (List Object))) (json : Json) :
    Option (Except FormError Operation) :=
  let post := PostParams.ofJson (json.get "pp")
  let patching := PatchParams.ofJson (json.get "pp")
  let deleting := DeleteParams.ofJson (json.get "dp")
  let listed : Except FormError (Except StreamError (List Object)) :=
    match stream with
    | some read => .ok read
    | none => (objects json).map .ok
  match json.text "do", stream with
  | "create_multiple", _ => some do return .createMultiple (← listed) post
  | "delete_multiple", _ => some do return .deleteMultiple (← listed) deleting
  | "get_multiple", some read => some (.ok (.getRead read))
  | "get_multiple", none => some do
    return .getMultiple (← (json.items "reqs").mapM (GetRequest.ofJson scheme))
  | "patch_multiple", some read => some (.ok (.applyRead read patching))
  | "patch_multiple", none => some do
    return .patchMultiple (← (json.items "reqs").mapM PatchRequest.ofJson) patching
  | _, _ => none

/-- The operation that a JSON object describes. -/
def ofJson (scheme : Scheme) (stream : Option (Except StreamError (List Object))) (json : Json) :
    Except FormError Operation :=
  (((single? json).or (typed? json)).or (batch? scheme stream json)).getD (.error .unknown)

end Operation

end Reconciler
