import Reconciler.Client.Basic
/-!
Stores keep objects in memory, each under its reference.  A store does what the options ask for
only in part, and refuses a request that uses any of the others before it looks at an object; it
does not know which kinds have namespaces, and it does not patch.  A failing operation leaves the
store as it was.
-/
namespace Reconciler

/-- Objects under their references. -/
structure Store where
  entries : SortedMap ObjectRef Object := .empty
deriving DecidableEq, Inhabited

namespace Store

/-- The store without objects. -/
def empty : Store := {}

/-- All objects in the order of their references. -/
def objects (store : Store) : List Object :=
  store.entries.values

/-- The references of all objects in order. -/
def references (store : Store) : List ObjectRef :=
  store.entries.keys

/-- The different kinds of the objects in order. -/
def groupKinds (store : Store) : List GroupKind :=
  (SortedMap.ofList (store.references.map fun reference => (reference.groupKind, ()))).keys

/-- The objects of a kind in the order of their keys. -/
def groupKindObjects (store : Store) (groupKind : GroupKind) : List Object :=
  (store.entries.filter fun reference _ => reference.groupKind = groupKind).values

/-- Refuses an option that is set. -/
def refuse (isSet : Bool) (what : String) : Except ClientError Unit :=
  if isSet then .error (.unsupported what) else .ok ()

/-- Refuses what creating does not do. -/
def validateCreate (params : PostParams) : Except ClientError Unit :=
  refuse params.dryRun "dry run"

/-- Refuses what updating does not do. -/
def validateUpdate (params : PostParams) : Except ClientError Unit := do
  refuse params.dryRun "dry run"
  refuse params.fieldManager.isSome "field manager"

/-- Refuses what listing does not do. -/
def validateList (options : ListOptions) : Except ClientError Unit := do
  refuse options.limit.isSome "limit"
  refuse options.continueToken.isSome "continue token"
  refuse options.fieldSelector.isSome "field selector"

/-- Refuses what deleting does not do. -/
def validateDelete (params : DeleteParams) : Except ClientError Unit := do
  refuse params.dryRun "dry run"
  refuse params.gracePeriodSeconds.isSome "grace period seconds"
  refuse params.preconditions.isSome "preconditions"
  refuse params.propagationPolicy.isSome "propagation policy"

/-- Which objects of a kind are asked for. -/
structure Filter where
  namespaceName : Option String
  selector : Label.Selector
deriving DecidableEq

namespace Filter

/-- The filter of list options; an empty namespace is none. -/
def ofOptions (options : ListOptions) : Except ClientError Filter :=
  match Label.parse (options.labelSelector.getD "") with
  | .ok selector => .ok ⟨options.namespaceName.filter fun name => !name.isEmpty, selector⟩
  | .error error => .error (.selector error)

/-- Whether an object is asked for. -/
def admits (filter : Filter) (object : Object) : Bool :=
  (filter.namespaceName.isNone || object.metadata.namespaceName = filter.namespaceName) &&
    filter.selector.matches object.metadata.labelMap

end Filter

/-- Whether an entry is of a kind and asked for. -/
def selects (gvk : GroupVersionKind) (filter : Filter) (reference : ObjectRef)
    (object : Object) : Bool :=
  reference.groupKind = gvk.groupKind && filter.admits object

/-- The reference under which an object is kept. -/
def reference (object : Object) : Except ClientError ObjectRef :=
  (ObjectRef.ofObject object).mapError .scheme

/-- The error about a reference that the store lacks. -/
def missing (reference : ObjectRef) : ClientError :=
  .notFound reference.groupKind reference.key

/-- The entries of the store at hand. -/
def kept : Action Store (SortedMap ObjectRef Object) :=
  entries <$> MonadState.get

/-- Change the entries of the store at hand. -/
def rewrite (change : SortedMap ObjectRef Object → SortedMap ObjectRef Object) :
    Action Store Unit :=
  modify fun store => ⟨change store.entries⟩

/-- Get the object of a kind with a key. -/
def get (gvk : GroupVersionKind) (key : ObjectKey) : Action Store Object := do
  match (← kept).get? ⟨gvk.groupKind, key⟩ with
  | some object => return object
  | none => throw (missing ⟨gvk.groupKind, key⟩)

/-- List objects of a kind. -/
def list (gvk : GroupVersionKind) (options : ListOptions) : Action Store (List Object) := do
  Attempt.ofExcept (validateList options)
  let filter ← Attempt.ofExcept (Filter.ofOptions options)
  return ((← kept).filter (selects gvk filter)).values

/-- Go on with the reference of an object once the options are checked. -/
def addressing {α : Type} (check : Except ClientError Unit) (object : Object)
    (next : ObjectRef → Action Store α) : Action Store α := do
  Attempt.ofExcept check
  next (← Attempt.ofExcept (reference object))

/-- Create an object that is not there yet. -/
def create (object : Object) (params : PostParams) : Action Store Object :=
  addressing (validateCreate params) object fun reference => do
    if (← kept).contains reference then
      throw (.alreadyExists reference.groupKind reference.key)
    rewrite (·.insert reference object)
    return object

/-- Change the object that is kept under a reference. -/
def replace (reference : ObjectRef) (change : Object → Object) : Action Store Object := do
  match (← kept).get? reference with
  | some stored =>
    rewrite (·.insert reference (change stored))
    return change stored
  | none => throw (missing reference)

/-- Replace an object that is there. -/
def update (object : Object) (params : PostParams) : Action Store Object :=
  addressing (validateUpdate params) object fun reference => replace reference fun _ => object

/-- Replace the status of an object that is there by that of another. -/
def updateStatus (object : Object) (params : PostParams) : Action Store Object :=
  addressing (validateUpdate params) object fun reference =>
    replace reference fun stored => stored.setStatus (object.field? "status")

/-- Delete an object that is there: the entry is taken out, and it is an error if there was none. -/
def delete (object : Object) (params : DeleteParams) : Action Store Unit :=
  addressing (validateDelete params) object fun reference => do
    let before ← kept
    rewrite (·.erase reference)
    unless before.contains reference do throw (missing reference)

/-- Delete the objects of a kind that are asked for. -/
def deleteAllOf (gvk : GroupVersionKind) (options : ListOptions) (params : DeleteParams) :
    Action Store Unit := do
  Attempt.ofExcept (validateList options)
  Attempt.ofExcept (validateDelete params)
  let filter ← Attempt.ofExcept (Filter.ofOptions options)
  rewrite (·.filter fun reference object => !selects gvk filter reference object)

end Store

end Reconciler
