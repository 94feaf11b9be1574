import Reconciler.Object.Basic
import Reconciler.Object.Form
/-!
Objects of one kind.  Their type information is not stored: reading may lack it, but where it is
present it must be that of the kind, and writing adds it.  What an object holds besides its metadata
is told by the table of the kind.
-/
namespace Reconciler

/-- The type information of objects of a kind. -/
def GroupVersionKind.types (gvk : GroupVersionKind) : TypeMeta :=
  ⟨gvk.apiVersion, gvk.kind⟩

/-- The metadata of an object of a kind: the type information must fit. -/
def typedHeader? (types : TypeMeta) (json : Json) : Option ObjectMeta := do
  let fits (name expected : String) : Bool :=
    match json.field? name with
    | none => true
    | some value => value.asString? = some expected
  if json.isObject ∧ fits "apiVersion" types.apiVersion ∧ fits "kind" types.kind then
    json.defaulted? ObjectMeta.decode? {} "metadata"
  else none

/-- The JSON form of an object of a kind. -/
def typedJson (types : TypeMeta) (metadata : ObjectMeta) (fields : List (String × Option Json)) :
    Json :=
  .present (("apiVersion", some (.str types.apiVersion)) :: ("kind", some (.str types.kind)) ::
    ("metadata", some metadata.toJson) :: fields)

/-- A kind with the fields that its objects have next to the metadata. -/
structure ObjectKind where
  gvk : GroupVersionKind
  table : Table
  legible : gvk.Legible
  /-- No field has the name of another one, of the type information or of the metadata. -/
  names : ("apiVersion" :: "kind" :: "metadata" :: table.names).Nodup
  sound : table.sound = true

/-- An object of a kind. -/
structure KindObject (kind : ObjectKind) where
  metadata : ObjectMeta := {}
  row : kind.table.Row := kind.table.blank
deriving DecidableEq

namespace KindObject

variable {kind : ObjectKind}

/-- Read an object of a kind. -/
def decode? (json : Json) : Option (KindObject kind) :=
  (typedHeader? kind.gvk.types json).bind fun metadata =>
    (kind.table.decode? json).map fun row => ⟨metadata, row⟩

/-- The JSON form. -/
def toJson (object : KindObject kind) : Json :=
  typedJson kind.gvk.types object.metadata (kind.table.fields object.row)

end KindObject

end Reconciler
