import Reconciler.Scheme
/-!
Ownership: an object is controlled by the owner that its controller reference points at.
-/
namespace Reconciler

/-- Whether a controller reference points at an owner of a kind: group, version, kind, name and
uid must all be the same. -/
def OwnerReference.pointsAt (reference : OwnerReference) (gvk : GroupVersionKind)
    (owner : ObjectMeta) : Except SchemeError Bool :=
  (GroupVersion.parse reference.apiVersion).map fun parsed =>
    parsed.group = gvk.group ∧ parsed.version = gvk.version ∧ reference.kind = gvk.kind ∧
      owner.name = some reference.name ∧ owner.uid = some reference.uid

/-- Whether an object has a controller reference that points at an owner.  Without a controller
reference the kind of the owner does not matter. -/
def isControlledBy (scheme : Scheme) (type : ObjectType) (owner : type.Value)
    (controlled : ObjectMeta) : Except SchemeError Bool :=
  match controlled.controller? with
  | none => .ok false
  | some reference => do
    reference.pointsAt (← scheme.gvkFor type owner) (type.metadata owner)

section

variable (scheme : Scheme) (type : ObjectType) (owner : type.Value)

/-- The items of a list that an owner controls, in order, given the metadata of each.  The first
item for which this cannot be told is an error. -/
def keepControlledBy {α : Type} (metadata : α → ObjectMeta) : List α → Except SchemeError (List α)
  | [] => .ok []
  | item :: rest => do
    if ← isControlledBy scheme type owner (metadata item) then
      return item :: (← keepControlledBy metadata rest)
    else
      keepControlledBy metadata rest

/-- The objects that an owner controls, in order. -/
def filterControlledBy (objects : List Object) : Except SchemeError (List Object) :=
  keepControlledBy scheme type owner Object.metadata objects

end

end Reconciler
