import Reconciler.Object.Type
import Reconciler.Proofs.Kind
import Reconciler.Proofs.Object.Form
/-!
Objects of a kind survive being written, with their times as the forms of the fields have them.
-/
namespace Reconciler

open Json

theorem defaulted?_of_typedHeader? {types : TypeMeta} {json : Json} {metadata : ObjectMeta}
    (hread : typedHeader? types json = some metadata) :
    json.defaulted? ObjectMeta.decode? {} "metadata" = some metadata := by
  simp only [typedHeader?, Option.ite_none_right_eq_some] at hread
  exact hread.2

/-- The metadata next to type information are read from some value. -/
theorem exists_of_typedHeader? {types : TypeMeta} {json : Json} {metadata : ObjectMeta}
    (hread : typedHeader? types json = some metadata) :
    ∃ field, ObjectMeta.decode? field = some metadata := by
  have hblank : ObjectMeta.decode? (.obj []) = some {} := rfl
  obtain ⟨field, hfield, -⟩ := exists_of_defaulted? hblank (defaulted?_of_typedHeader? hread)
  exact ⟨field, hfield⟩

/-- The metadata of an object of a kind is read again next to the type information of the kind. -/
theorem typedHeader?_written {types : TypeMeta} {json written : Json} {metadata : ObjectMeta}
    (hread : typedHeader? types json = some metadata) (hcivil : ∀ t ∈ metadata.times, t.Civil)
    (hobject : written.isObject = true)
    (hversion : written.field? "apiVersion" = some (.str types.apiVersion))
    (hkind : written.field? "kind" = some (.str types.kind))
    (hmetadata : written.field? "metadata" = some metadata.toJson) :
    typedHeader? types written = some metadata.truncate := by
  have hblank : ObjectMeta.decode? (.obj []) = some {} := rfl
  have hwritten := ObjectMeta.roundTrips.defaulted? hblank (by simp)
    (defaulted?_of_typedHeader? hread) hcivil hmetadata
  simp only [typedHeader?, hobject, hversion, hkind, asString?, decide_true, and_self, if_true,
    hwritten]

namespace KindObject

variable {kind : ObjectKind}

/-- The times of an object. -/
def times (object : KindObject kind) : List Instant :=
  object.metadata.times ++ kind.table.times object.row

/-- An object with its times as they are written. -/
def truncate (object : KindObject kind) : KindObject kind :=
  ⟨object.metadata.truncate, kind.table.truncate object.row⟩

theorem decode?_eq_some_iff {json : Json} {object : KindObject kind} :
    decode? json = some object ↔ typedHeader? kind.gvk.types json = some object.metadata ∧
      kind.table.decode? json = some object.row := by
  rw [decode?, Option.bind_eq_some_iff]
  constructor
  · rintro ⟨metadata, hmetadata, hread⟩
    obtain ⟨row, hrow, rfl⟩ := Option.map_eq_some_iff.1 hread
    exact ⟨hmetadata, hrow⟩
  · rintro ⟨hmetadata, hrow⟩
    exact ⟨object.metadata, hmetadata, Option.map_eq_some_iff.2 ⟨object.row, hrow, rfl⟩⟩

/-- No field of an object is written twice. -/
theorem nodup_names (object : KindObject kind) :
    ("apiVersion" :: "kind" :: "metadata" :: (kind.table.fields object.row).map (·.1)).Nodup := by
  rw [kind.table.map_fst_fields]
  exact kind.names

/-- A field of an object is what is written of it. -/
theorem field?_toJson (object : KindObject kind) {name : String} {value : Option Json}
    (hmem : (name, value) ∈ ("apiVersion", some (.str kind.gvk.types.apiVersion)) ::
      ("kind", some (.str kind.gvk.types.kind)) :: ("metadata", some object.metadata.toJson) ::
      kind.table.fields object.row) : object.toJson.field? name = value :=
  field?_present (by simpa using object.nodup_names) hmem

theorem field?_apiVersion (object : KindObject kind) :
    object.toJson.field? "apiVersion" = some (.str kind.gvk.types.apiVersion) :=
  object.field?_toJson List.mem_cons_self

theorem field?_kind (object : KindObject kind) :
    object.toJson.field? "kind" = some (.str kind.gvk.types.kind) :=
  object.field?_toJson (List.mem_cons_of_mem _ List.mem_cons_self)

theorem field?_metadata (object : KindObject kind) :
    object.toJson.field? "metadata" = some object.metadata.toJson :=
  object.field?_toJson (List.mem_cons_of_mem _ (List.mem_cons_of_mem _ List.mem_cons_self))

theorem field?_row (object : KindObject kind) {field : String × Option Json}
    (hfield : field ∈ kind.table.fields object.row) : object.toJson.field? field.1 = field.2 :=
  object.field?_toJson (List.mem_cons_of_mem _ (List.mem_cons_of_mem _
    (List.mem_cons_of_mem _ hfield)))

/-- Objects of a kind survive being written. -/
theorem roundTrips : RoundTrips decode? toJson truncate (@times kind) where
  ne_null _ _ := present_ne_null _
  decode_encode {json object} hread hcivil := by
    rw [decode?_eq_some_iff] at hread ⊢
    obtain ⟨hmetadataCivil, hrowCivil⟩ := List.forall_mem_append.1 hcivil
    constructor
    · exact typedHeader?_written hread.1 hmetadataCivil rfl object.field?_apiVersion
        object.field?_kind object.field?_metadata
    · exact kind.table.decode?_written kind.sound hread.2 hrowCivil fun _ => object.field?_row

end KindObject

/-- The times of a value of a type, as far as they are known. -/
def ObjectType.times : (type : ObjectType) → type.Value → List Instant
  | .known _, object => object.times
  | .plain _, object => object.metadata.times
  | .dynamic, object => object.metadata.times
  | .json, _ => []

end Reconciler
