import Reconciler.Object.Meta
import Reconciler.Kind
/-!
Objects of any kind.  An object carries its kind in its own type information, its metadata is
structured, and everything else is data that is kept as it is.  The names of the structured parts
do not occur in the data, so that nothing is stored twice.
-/
namespace Reconciler

/-- The type information of an object. -/
structure TypeMeta where
  apiVersion : String
  kind : String
deriving DecidableEq, Repr, Inhabited

/-- The data of an object: fields of any names but those of the structured parts. -/
structure ObjectData where
  fields : SortedMap String Json
  free : ∀ entry ∈ fields.entries, entry.1 ∉ ["apiVersion", "kind", "metadata"]
deriving DecidableEq

namespace ObjectData

/-- Data without fields. -/
def empty : ObjectData :=
  ⟨.empty, by simp [SortedMap.empty]⟩

/-- The fields that are data among some fields. -/
def ofFields (fields : List (String × Json)) : ObjectData :=
  ⟨(SortedMap.ofList fields).filter fun name _ => name ∉ ["apiVersion", "kind", "metadata"], by
    intro entry member
    simp only [SortedMap.filter, List.mem_filter, decide_eq_true_eq] at member
    exact member.2⟩

/-- Set the status. -/
def insertStatus (data : ObjectData) (status : Json) : ObjectData :=
  ⟨data.fields.insert "status" status, by
    intro entry member
    rcases Entries.mem_insert member with rfl | member
    · show "status" ∉ ["apiVersion", "kind", "metadata"]
      decide
    · exact data.free entry member⟩

/-- Remove the status. -/
def eraseStatus (data : ObjectData) : ObjectData :=
  ⟨data.fields.erase "status", fun entry member =>
    data.free entry (List.mem_filter.1 member).1⟩

end ObjectData

/-- An object of any kind. -/
structure Object where
  types : Option TypeMeta := none
  metadata : ObjectMeta := {}
  /-- The other fields.  No data and data without fields are not the same. -/
  data : Option ObjectData := none
deriving DecidableEq, Inhabited

namespace Object

/-- The field of the data. -/
def field? (object : Object) (name : String) : Option Json :=
  object.data.bind fun data => data.fields.get? name

/-- Replace the status, or remove it.  Only a status gives data to an object that has none. -/
def setStatus (object : Object) (status : Option Json) : Object :=
  { object with
    data := match object.data, status with
      | some data, some status => some (data.insertStatus status)
      | some data, none => some data.eraseStatus
      | none, some status => some (ObjectData.empty.insertStatus status)
      | none, none => none }

/-- Read an object.  Type information needs both parts; metadata may be absent, but not null. -/
def decode? : Json → Option Object
  | .obj fields => do
    let types := match Entries.get? "apiVersion" fields, Entries.get? "kind" fields with
      | some (.str apiVersion), some (.str kind) => some ⟨apiVersion, kind⟩
      | _, _ => none
    let metadata ← match Entries.get? "metadata" fields with
      | some value => ObjectMeta.decode? value
      | none => some {}
    return { types, metadata, data := some (.ofFields fields) }
  | _ => none

/-- The JSON form; metadata is always there. -/
def toJson (object : Object) : Json :=
  let types := match object.types with
    | some types => [("apiVersion", Json.str types.apiVersion), ("kind", .str types.kind)]
    | none => []
  let data := match object.data with
    | some data => data.fields.entries
    | none => []
  .ofFields (types ++ ("metadata", object.metadata.toJson) :: data)

end Object

end Reconciler
