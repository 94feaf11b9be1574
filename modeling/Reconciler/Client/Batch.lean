import Reconciler.Client.Basic
/-!
Operations on several objects, one after another.  The first failure ends them, and its error names
the object; what was done before it stays done.
-/
namespace Reconciler

/-- A request to patch an object. -/
structure PatchRequest where
  object : Object
  patch : Patch

/-- The request to apply an object as it is. -/
def PatchRequest.applying (object : Object) : PatchRequest :=
  ⟨object, .apply object.toJson⟩

/-- The request to patch an object as a provider says, which may fail. -/
def PatchRequest.provided (provider : Object → Except ClientError Patch) (object : Object) :
    Except ClientError PatchRequest :=
  (provider object).map fun patch => ⟨object, patch⟩

/-- The provider that has every object applied as it is. -/
def applyAll (object : Object) : Except ClientError Patch :=
  .ok (.apply object.toJson)

namespace Client

variable {σ : Type} (client : Client σ)

/-- Create objects. -/
def createMultiple (objects : List Object) (params : PostParams) : Action σ (List Object) :=
  objects.mapM fun object =>
    (client.create object params).forObject "creating" (.ofObject object)

/-- Get the object of every request. -/
def getMultiple (requests : List GetRequest) : Action σ (List Object) :=
  requests.mapM fun request => (client.get request.gvk request.key).forObject "getting" request.key

/-- Patch the object of every request. -/
def patchMultiple (requests : List PatchRequest) (params : PatchParams) :
    Action σ (List Object) :=
  requests.mapM fun request =>
    (client.patch request.object request.patch params).forObject "patching"
      (.ofObject request.object)

/-- Delete objects. -/
def deleteMultiple (objects : List Object) (params : DeleteParams) : Action σ Unit :=
  objects.forM fun object =>
    (client.delete object params).forObject "deleting" (.ofObject object)

/-- Go on with the objects that were read, if they could be read. -/
def reading {α : Type} (objects : Except StreamError (List Object))
    (next : List Object → Action σ α) : Action σ α := do
  next (← Attempt.ofExcept (objects.mapError .read))

/-- Create the objects that were read. -/
def createRead (objects : Except StreamError (List Object)) (params : PostParams) :
    Action σ (List Object) :=
  reading objects fun objects => client.createMultiple objects params

/-- Get the current state of the objects that were read. -/
def getRead (objects : Except StreamError (List Object)) : Action σ (List Object) :=
  reading objects fun objects => do
    let requests ← Action.ofScheme (objects.mapM fun object =>
      object.gvk.map fun gvk => GetRequest.dynamic gvk (.ofObject object))
    client.getMultiple requests

/-- Patch the objects that were read.  The patches of all of them are there before the first is
used. -/
def patchRead (objects : Except StreamError (List Object))
    (provider : Object → Except ClientError Patch) (params : PatchParams) :
    Action σ (List Object) :=
  reading objects fun objects => do
    let requests ← Attempt.ofExcept (objects.mapM (PatchRequest.provided provider))
    client.patchMultiple requests params

/-- Delete the objects that were read. -/
def deleteRead (objects : Except StreamError (List Object)) (params : DeleteParams) :
    Action σ Unit :=
  reading objects fun objects => client.deleteMultiple objects params

end Client

end Reconciler
