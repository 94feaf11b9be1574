import Reconciler.Client.Basic
/-!
Operations on objects of a type.  The scheme of the client says of which kind they are; objects are
converted before they are sent and after they are received.
-/
namespace Reconciler.Client

variable {σ : Type} (client : Client σ)

/-- An answer as an object of a type. -/
def received (type : ObjectType) (object : Object) : Action σ type.Value :=
  .ofScheme (client.scheme.fromDynamic type object)

/-- An object of a type as it is sent. -/
def sent (type : ObjectType) (object : type.Value) : Action σ Object :=
  .ofScheme (client.scheme.toDynamic type object)

/-- Get the object of a type with a key. -/
def getObject (type : ObjectType) (key : ObjectKey) : Action σ type.Value := do
  let gvk ← Action.ofScheme (client.scheme.gvk type)
  client.received type (← client.get gvk key)

/-- List objects of a type. -/
def listObjects (type : ObjectType) (options : ListOptions) : Action σ (List type.Value) := do
  let gvk ← Action.ofScheme (client.scheme.gvk type)
  (← client.list gvk options).mapM (client.received type)

/-- Create an object of a type. -/
def createObject (type : ObjectType) (object : type.Value) (params : PostParams) :
    Action σ type.Value := do
  client.received type (← client.create (← client.sent type object) params)

/-- Update an object of a type. -/
def updateObject (type : ObjectType) (object : type.Value) (params : PostParams) :
    Action σ type.Value := do
  client.received type (← client.update (← client.sent type object) params)

/-- Update the status of an object of a type. -/
def updateObjectStatus (type : ObjectType) (object : type.Value) (params : PostParams) :
    Action σ type.Value := do
  client.received type (← client.updateStatus (← client.sent type object) params)

/-- Delete an object of a type. -/
def deleteObject (type : ObjectType) (object : type.Value) (params : DeleteParams) :
    Action σ Unit := do
  client.delete (← client.sent type object) params

/-- Delete objects of a type. -/
def deleteAllObjects (type : ObjectType) (options : ListOptions) (params : DeleteParams) :
    Action σ Unit := do
  let gvk ← Action.ofScheme (client.scheme.gvk type)
  client.deleteAllOf gvk options params

end Reconciler.Client
