import Reconciler.Store.Basic
/-!
A store as a client.
-/
namespace Reconciler.Store

/-- The client that works on a store, with the kinds of the types. -/
def client (scheme : Scheme) : Client Store where
  scheme := scheme
  get := get
  list := list
  create := create
  update := update
  patch _ _ _ := throw (.unsupported "patch")
  updateStatus := updateStatus
  patchStatus _ _ _ := throw (.unsupported "patch")
  delete := delete
  deleteAllOf := deleteAllOf

end Reconciler.Store
