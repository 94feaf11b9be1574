import Reconciler.Client.Basic
/-!
Finalizers: names that keep an object from being deleted.  They are added and removed in an object
at hand, or with a patch of the stored one; the patch names the version that it is made for, so
that it fails if the object has changed meanwhile.
-/
namespace Reconciler

namespace ObjectMeta

/-- Whether a finalizer is set. -/
def hasFinalizer (metadata : ObjectMeta) (finalizer : String) : Bool :=
  metadata.finalizerList.contains finalizer

/-- Add a finalizer at the end unless it is set: whether it was added, and the result. -/
def addFinalizer (metadata : ObjectMeta) (finalizer : String) : Bool × ObjectMeta :=
  if metadata.hasFinalizer finalizer then (false, metadata)
  else (true, { metadata with finalizers := some (metadata.finalizerList ++ [finalizer]) })

/-- Remove every occurrence of a finalizer: whether there was one, and the result, in which the
finalizers are set. -/
def removeFinalizer (metadata : ObjectMeta) (finalizer : String) : Bool × ObjectMeta :=
  let kept := metadata.finalizerList.filter (· ≠ finalizer)
  (kept.length ≠ metadata.finalizerList.length, { metadata with finalizers := some kept })

end ObjectMeta

/-- The state of a client, and an object at hand. -/
structure AtHand (σ : Type) where
  state : σ
  object : Object

/-- The patch that sets the finalizers of an object, which must still be in its version. -/
def finalizerPatch (object : Object) (finalizers : List String) : Patch :=
  .merge (.obj [("metadata", .obj [
    ("finalizers", .strings finalizers),
    ("resourceVersion", (object.metadata.resourceVersion.map Json.str).getD .null)])])

namespace AtHand

variable {σ α : Type}

/-- The client works; the object at hand stays. -/
def request (action : Action σ α) : Action (AtHand σ) α :=
  ExceptT.mk fun hand =>
    match action.on hand.state with
    | (result, next) => (result, { hand with state := next })

/-- Work with an object at hand: the result, and the object afterwards. -/
def holding (object : Object) (work : Action (AtHand σ) α) : Action σ (α × Object) :=
  ExceptT.mk fun state =>
    match work.on ⟨state, object⟩ with
    | (result, hand) => (result.map (·, hand.object), hand.state)

variable (client : Client σ)

/-- Set the finalizers of the object at hand, which becomes the patched object. -/
def patchFinalizers (finalizers : List String) : Action (AtHand σ) Unit := do
  let object := (← get).object
  let patched ← request ((client.patch object (finalizerPatch object finalizers) {}).forObject
    "patching finalizers of" (.ofObject object))
  modify fun hand => { hand with object := patched }

/-- Add a finalizer at the end. -/
def patchAddFinalizer (finalizer : String) : Action (AtHand σ) Unit := do
  patchFinalizers client ((← get).object.metadata.finalizerList ++ [finalizer])

/-- Remove every occurrence of a finalizer. -/
def patchRemoveFinalizer (finalizer : String) : Action (AtHand σ) Unit := do
  patchFinalizers client ((← get).object.metadata.finalizerList.filter (· ≠ finalizer))

/-- Add a finalizer unless it is set: whether a patch was sent. -/
def patchEnsureFinalizer (finalizer : String) : Action (AtHand σ) Bool := do
  if (← get).object.metadata.hasFinalizer finalizer then return false
  patchAddFinalizer client finalizer
  return true

/-- Remove a finalizer if it is set: whether a patch was sent. -/
def patchEnsureNoFinalizer (finalizer : String) : Action (AtHand σ) Bool := do
  if !(← get).object.metadata.hasFinalizer finalizer then return false
  patchRemoveFinalizer client finalizer
  return true

end AtHand

namespace Client

variable {σ : Type} (client : Client σ)

/-- Add a finalizer to an object at the end: the patched object. -/
def patchAddFinalizer (object : Object) (finalizer : String) : Action σ Object :=
  Prod.snd <$> AtHand.holding object (AtHand.patchAddFinalizer client finalizer)

/-- Remove every occurrence of a finalizer of an object: the patched object. -/
def patchRemoveFinalizer (object : Object) (finalizer : String) : Action σ Object :=
  Prod.snd <$> AtHand.holding object (AtHand.patchRemoveFinalizer client finalizer)

/-- Add a finalizer to an object unless it is set: whether a patch was sent, and the object
afterwards. -/
def patchEnsureFinalizer (object : Object) (finalizer : String) : Action σ (Bool × Object) :=
  AtHand.holding object (AtHand.patchEnsureFinalizer client finalizer)

/-- Remove a finalizer of an object if it is set: whether a patch was sent, and the object
afterwards. -/
def patchEnsureNoFinalizer (object : Object) (finalizer : String) : Action σ (Bool × Object) :=
  AtHand.holding object (AtHand.patchEnsureNoFinalizer client finalizer)

end Client

end Reconciler
