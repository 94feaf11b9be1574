import Reconciler.Client.Basic
/-!
Clients that only know how to patch finalizers: they answer a merge patch with the patched object.
They stand in for a server where the use of patches is tried out, and keep the patches that they
were sent.
-/
namespace Reconciler.FinalizerPatcher

/-- The error of an operation that the clients do not know. -/
def unknown {σ α : Type} (operation : String) : Action σ α :=
  .ofExcept (.error (.unsupported operation))

/-- The client that knows only one operation, which is to patch. -/
def patching {σ : Type} (scheme : Scheme) (patch : Object → Patch → Action σ Object) :
    Client σ where
  scheme := scheme
  get _ _ := unknown "get"
  list _ _ := unknown "list"
  create _ _ := unknown "create"
  update _ _ := unknown "update"
  patch object change _ := patch object change
  updateStatus _ _ := unknown "update_status"
  patchStatus _ _ _ := unknown "patch_status"
  delete _ _ := unknown "delete"
  deleteAllOf _ _ _ := unknown "delete_all_of"

/-- What a patch says about a field of the metadata. -/
def metadataField? (patch : Patch) (name : String) : Option Json :=
  (patch.body.field? "metadata").bind (·.field? name)

/-- The object with the finalizers of a merge patch. -/
def patched (object : Object) : Patch → Except ClientError Object
  | .merge body =>
    match (metadataField? (.merge body) "finalizers").bind (Json.asList? Json.asString?) with
    | some finalizers =>
      .ok { object with metadata := { object.metadata with finalizers := some finalizers } }
    | none => .error .serialization
  | _ => .error (.unsupported "non-merge patch")

/-- The client for which nobody else ever changes an object.  It keeps the bodies of the patches
that it made. -/
def obliging (scheme : Scheme) : Client (List Json) :=
  patching scheme fun object patch => do
    let object ← Attempt.ofExcept (patched object patch)
    modify (· ++ [patch.body])
    return object

/-- The version that a patch must name to be refused as out of date. -/
def conflictingVersion : String := "conflict"

/-- Whether a patch is refused as out of date. -/
def conflicts : Patch → Bool
  | .merge body => metadataField? (.merge body) "resourceVersion" = some (.str conflictingVersion)
  | _ => false

/-- The answer to a patch that may be out of date. -/
def answer (object : Object) (patch : Patch) : Except ClientError Object :=
  if conflicts patch then .error (.api (.status ⟨"Failure", "changed", "Conflict", 409⟩))
  else patched object patch

/-- The client that refuses patches that are out of date.  It keeps all patches that it was sent. -/
def client (scheme : Scheme) : Client (List Patch) :=
  patching scheme fun object patch =>
    ExceptT.mk fun patches => (answer object patch, patches ++ [patch])

end Reconciler.FinalizerPatcher
