import Reconciler.Scheme
/-!
Field indexes that several users share.  An index belongs to a representation of objects, a kind
and a field; it is registered once with the function that extracts the values, and built once, when
somebody needs it.
-/
namespace Reconciler

/-- How the objects of an index are seen. -/
inductive Representation where
  | typed (type : ObjectType)
  | dynamic
  /-- Only metadata is seen. -/
  | metadata

/-- The objects of a representation. -/
abbrev Representation.Item : Representation → Type
  | .typed type => type.Value
  | .dynamic => Object
  | .metadata => ObjectMeta

/-- What tells a representation from all others: a type is told by its path. -/
inductive View where
  | typed (path : String)
  | dynamic
  | metadata
deriving DecidableEq, Repr

/-- What tells a representation from all others. -/
def Representation.view : Representation → View
  | .typed type => .typed type.path
  | .dynamic => .dynamic
  | .metadata => .metadata

/-- What tells an index from all others. -/
structure IndexKey where
  view : View
  gvk : GroupVersionKind
  field : String
deriving DecidableEq, Repr

/-- The kind of the objects in the words of an error message. -/
def IndexKey.describe (key : IndexKey) : String :=
  let kind := key.gvk.apiVersion ++ "/" ++ key.gvk.kind
  match key.view with
  | .typed _ => kind
  | .dynamic => kind ++ " (dynamic)"
  | .metadata => kind ++ " (metadata)"

/-- Which index it is, and how its objects are seen. -/
structure IndexId where
  representation : Representation
  gvk : GroupVersionKind
  field : String

namespace IndexId

/-- What tells the index from all others. -/
def key (id : IndexId) : IndexKey :=
  ⟨id.representation.view, id.gvk, id.field⟩

/-- The index of a field of typed objects. -/
def typed (scheme : Scheme) (type : ObjectType) (field : String) : Except SchemeError IndexId :=
  (scheme.gvk type).map fun gvk => ⟨.typed type, gvk, field⟩

/-- The functions that extract the values of an index. -/
abbrev Extract (id : IndexId) : Type :=
  id.representation.Item → List String

end IndexId

/-- An index to be built. -/
structure Index where
  id : IndexId
  extract : id.Extract

/-- Which objects of a kind an index is asked for: those of a type, of which the scheme knows the
kind, or those of a given kind as objects of any kind or by their metadata. -/
inductive IndexTarget where
  | typed (type : ObjectType)
  | dynamic (gvk : GroupVersionKind)
  | metadata (gvk : GroupVersionKind)

/-- Why an index cannot be registered or used. -/
inductive IndexError where
  | alreadyRegistered (key : IndexKey)
  | unknownField (key : IndexKey)
  | scheme (source : SchemeError)
  /-- Building the index failed. -/
  | indexer (key : IndexKey) (source : String)
deriving DecidableEq, Repr

/-- The text of an error, if it is fixed. -/
def IndexError.message? : IndexError → Option String
  | .alreadyRegistered key =>
    some ("indexer for " ++ key.describe ++ " field " ++ key.field ++ " already registered")
  | .unknownField key => some ("unknown field " ++ key.field ++ " for " ++ key.describe)
  | .scheme source => source.message?
  | .indexer key source =>
    some ("failed to index " ++ key.describe ++ " field " ++ key.field ++ ": " ++ source)

namespace IndexTarget

/-- How the objects are seen. -/
def representation : IndexTarget → Representation
  | .typed type => .typed type
  | .dynamic _ => .dynamic
  | .metadata _ => .metadata

/-- The kind of the objects. -/
def gvk (scheme : Scheme) : IndexTarget → Except SchemeError GroupVersionKind
  | .typed type => scheme.gvk type
  | .dynamic gvk | .metadata gvk => .ok gvk

/-- Which index it is. -/
def id (scheme : Scheme) (target : IndexTarget) (field : String) : Except IndexError IndexId :=
  match target with
  | .typed type => (IndexId.typed scheme type field).mapError .scheme
  | .dynamic gvk => .ok ⟨.dynamic, gvk, field⟩
  | .metadata gvk => .ok ⟨.metadata, gvk, field⟩

/-- The index of a field with the function that extracts its values. -/
def index (scheme : Scheme) (target : IndexTarget) (field : String)
    (extract : target.representation.Item → List String) : Except IndexError Index :=
  ((target.gvk scheme).map fun gvk =>
    ⟨⟨target.representation, gvk, field⟩, extract⟩).mapError .scheme

end IndexTarget

/-- What users ask of shared indexes. -/
inductive IndexCall where
  /-- Register an index. -/
  | register (target : IndexTarget) (field : String)
      (extract : target.representation.Item → List String)
  /-- Make sure that an index is built. -/
  | index (target : IndexTarget) (field : String)

/-- The index that a call is about. -/
def IndexCall.id (scheme : Scheme) : IndexCall → Except IndexError IndexId
  | .register target field _ | .index target field => target.id scheme field

/-- A registered index, and whether it is built. -/
structure IndexEntry (key : IndexKey) where
  index : Index
  same : index.id.key = key
  built : Bool := false

/-- The indexes that are registered. -/
structure SharedIndexes where
  entries : (key : IndexKey) → Option (IndexEntry key)

namespace SharedIndexes

/-- No indexes. -/
def empty : SharedIndexes := ⟨fun _ => none⟩

/-- Put an index in place of the one with its key. -/
def put (shared : SharedIndexes) (index : Index) (built : Bool) : SharedIndexes :=
  ⟨fun key =>
    if same : index.id.key = key then some ⟨index, same, built⟩ else shared.entries key⟩

/-- Register an index, which must not be registered yet. -/
def register (shared : SharedIndexes) (index : Index) : Except IndexError SharedIndexes :=
  if (shared.entries index.id.key).isSome then .error (.alreadyRegistered index.id.key)
  else .ok (shared.put index false)

/-- Make sure that a registered index is built.  `build` is only run for an index that is not, and
one that it fails on can be tried again. -/
def ensure {σ : Type} (build : Index → StateM σ (Except String Unit)) (shared : SharedIndexes)
    (id : IndexId) : StateM σ (Except IndexError Unit × SharedIndexes) :=
  match shared.entries id.key with
  | none => return (.error (.unknownField id.key), shared)
  | some entry =>
    if entry.built then return (.ok (), shared)
    else do
      match ← build entry.index with
      | .ok () => return (.ok (), shared.put entry.index true)
      | .error source => return (.error (.indexer id.key source), shared)

/-- Do what a call asks for. -/
def perform {σ : Type} (scheme : Scheme) (build : Index → StateM σ (Except String Unit))
    (shared : SharedIndexes) : IndexCall → StateM σ (Except IndexError Unit × SharedIndexes)
  | .register target field extract =>
    match target.index scheme field extract >>= shared.register with
    | .ok changed => return (.ok (), changed)
    | .error error => return (.error error, shared)
  | .index target field =>
    match target.id scheme field with
    | .ok id => shared.ensure build id
    | .error error => return (.error error, shared)

end SharedIndexes

end Reconciler
