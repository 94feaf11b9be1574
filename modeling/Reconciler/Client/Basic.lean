import Reconciler.Attempt
import Reconciler.Client.Error
import Reconciler.Client.Options
/-!
Clients: the operations on objects of any kind.  What an operation works on, a store or an exchange
of requests, is a state that it changes; a failing operation may have changed it too.
-/
namespace Reconciler

/-- An operation that works on a state and may fail. -/
abbrev Action (σ α : Type) := Attempt ClientError σ α

namespace Action

variable {σ α : Type}

/-- The operation that resolves kinds. -/
def ofScheme (result : Except SchemeError α) : Action σ α :=
  .ofExcept (result.mapError .scheme)

/-- The operation with an error that names the object that it worked on. -/
def forObject (what : String) (key : ObjectKey) (action : Action σ α) : Action σ α :=
  ExceptT.mk fun state =>
    match action.on state with
    | (.error error, next) => (.error (.object what key error), next)
    | done => done

theorem on_forObject (what : String) (key : ObjectKey) (action : Action σ α) (state : σ) :
    (action.forObject what key).on state =
      ((action.on state).1.mapError (.object what key), (action.on state).2) := by
  have hmatch : (action.forObject what key).on state =
      match action.on state with
      | (.error error, next) => (.error (.object what key error), next)
      | done => done := rfl
  rw [hmatch]
  cases action.on state with
  | mk result next => cases result <;> rfl

end Action

/-- The operations on objects of any kind. -/
structure Client (σ : Type) where
  /-- The kinds of the types. -/
  scheme : Scheme
  get : GroupVersionKind → ObjectKey → Action σ Object
  list : GroupVersionKind → ListOptions → Action σ (List Object)
  create : Object → PostParams → Action σ Object
  update : Object → PostParams → Action σ Object
  patch : Object → Patch → PatchParams → Action σ Object
  /-- Write the status of an object and leave everything else. -/
  updateStatus : Object → PostParams → Action σ Object
  patchStatus : Object → Patch → PatchParams → Action σ Object
  delete : Object → DeleteParams → Action σ Unit
  deleteAllOf : GroupVersionKind → ListOptions → DeleteParams → Action σ Unit

end Reconciler
