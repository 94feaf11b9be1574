import Reconciler.Proofs.Object.Scheme
import Reconciler.Proofs.Object.Settled
/-!
Objects that are given the status of another.  Nothing else of an object changes, and a reader looks
at one field at a time, so that the object can be read as one of its kind if it could before and the
other object can, too.
-/
namespace Reconciler

open Json

namespace Object

/-- The structured parts as they are written. -/
def header (object : Object) : List (String × Json) :=
  (match object.types with
    | some types => [("apiVersion", Json.str types.apiVersion), ("kind", .str types.kind)]
    | none => []) ++ [("metadata", object.metadata.toJson)]

/-- The data as it is written. -/
def body (object : Object) : List (String × Json) :=
  (object.data.getD .empty).fields.entries

theorem toJson_eq (object : Object) : object.toJson = .ofFields (object.header ++ object.body) := by
  obtain ⟨types, metadata, data⟩ := object
  cases types <;> cases data <;> rfl

/-- No field is written twice. -/
theorem nodup_keys_written (object : Object) :
    ((object.header ++ object.body).map (·.1)).Nodup := by
  obtain ⟨types, metadata, data⟩ := object
  have hkeys := @ObjectData.nodup_keys (data.getD .empty) .null .null .null
  cases types with
  | none => exact hkeys.of_cons.of_cons
  | some types => exact hkeys

theorem get?_body (object : Object) (name : String) :
    Entries.get? name object.body = object.field? name := by
  obtain ⟨types, metadata, data⟩ := object
  cases data <;> rfl

/-- A field that is written is one of the structured parts, or data. -/
theorem field?_toJson (object : Object) (name : String) :
    object.toJson.field? name = (Entries.get? name object.header).or (object.field? name) := by
  rw [toJson_eq, ← get?_body, ← Entries.get?_append]
  exact Entries.get?_ofList object.nodup_keys_written name

@[simp] theorem get?_header_status (object : Object) :
    Entries.get? "status" object.header = none := by
  refine Entries.get?_eq_none_of_not_mem ?_
  rw [header]
  cases object.types <;> simp

theorem field?_toJson_metadata (object : Object) :
    object.toJson.field? "metadata" = some object.metadata.toJson := by
  have htypes : Entries.get? "metadata" (match object.types with
      | some types => [("apiVersion", Json.str types.apiVersion), ("kind", .str types.kind)]
      | none => []) = none := by
    refine Entries.get?_eq_none_of_not_mem ?_
    cases object.types <;> simp
  rw [field?_toJson, header, Entries.get?_append, htypes, Option.none_or, Entries.get?,
    if_pos Std.ReflCmp.compare_self]
  rfl

@[simp] theorem field?_setStatus (object : Object) (status : Option Json) (name : String) :
    (object.setStatus status).field? name =
      if name = "status" then status else object.field? name := by
  have hcompare : compare name "status" = .eq ↔ name = "status" :=
    Std.LawfulEqOrd.compare_eq_iff_eq
  have hempty : (SortedMap.empty : SortedMap String Json).get? name = none := rfl
  obtain ⟨types, metadata, data⟩ := object
  cases data <;> cases status <;>
    simp [setStatus, field?, ObjectData.insertStatus, ObjectData.eraseStatus, ObjectData.empty,
      SortedMap.get?_insert, SortedMap.get?_erase, hcompare, hempty]

/-- An object with another status is written with this status, and as before otherwise. -/
theorem field?_toJson_setStatus (object : Object) (status : Option Json) (name : String) :
    (object.setStatus status).toJson.field? name =
      if name = "status" then status else object.toJson.field? name := by
  have hheader : (object.setStatus status).header = object.header := rfl
  rw [field?_toJson, hheader, field?_setStatus, field?_toJson]
  split
  · rename_i hname
    rw [hname, get?_header_status, Option.none_or]
  · rfl

variable {stored source answer other object : Object}

/-- An object is settled by its structured parts, its fields, and whether it has data. -/
theorem eq_of_field?_eq (htypes : object.types = other.types)
    (hmetadata : object.metadata = other.metadata)
    (hfields : ∀ name, object.field? name = other.field? name)
    (hdata : object.data = none ↔ other.data = none) : object = other := by
  obtain ⟨types, metadata, data⟩ := object
  obtain ⟨types', metadata', data'⟩ := other
  obtain rfl : types = types' := htypes
  obtain rfl : metadata = metadata' := hmetadata
  rcases data with _ | ⟨fields, hfree⟩ <;> rcases data' with _ | ⟨fields', hfree'⟩
  · rfl
  · cases hdata.1 rfl
  · cases hdata.2 rfl
  · obtain rfl : fields = fields' := SortedMap.ext_get? hfields
    rfl

/-- Objects with the same parts and the same fields are written as the same. -/
theorem toJson_congr (htypes : object.types = other.types)
    (hmetadata : object.metadata = other.metadata)
    (hfields : ∀ name, object.field? name = other.field? name) :
    object.toJson = other.toJson := by
  have hheader : object.header = other.header := by rw [header, header, htypes, hmetadata]
  have hbody : object.body = other.body := by
    apply congrArg SortedMap.entries
    apply SortedMap.ext_get?
    intro name
    exact (get?_body object name).trans ((hfields name).trans (get?_body other name).symm)
  rw [toJson_eq, toJson_eq, hheader, hbody]

/-- An object that has the status of another, null included, and is as it was otherwise. -/
structure TakesStatus (stored source answer : Object) : Prop where
  types : answer.types = stored.types
  metadata : answer.metadata = stored.metadata
  status : answer.field? "status" = source.field? "status"
  others : ∀ name, name ≠ "status" → answer.field? name = stored.field? name
  /-- Only a status gives data to an object that has none. -/
  data : answer.data = none ↔ stored.data = none ∧ source.field? "status" = none

theorem setStatus_data_eq_none_iff {status : Option Json} :
    (stored.setStatus status).data = none ↔ stored.data = none ∧ status = none := by
  obtain ⟨types, metadata, data⟩ := stored
  cases data <;> cases status <;> simp [setStatus]

/-- There is one object like this. -/
theorem takesStatus_iff :
    TakesStatus stored source answer ↔ answer = stored.setStatus (source.field? "status") := by
  constructor
  · intro h
    apply eq_of_field?_eq
    · exact h.types
    · exact h.metadata
    · intro name
      by_cases hname : name = "status"
      · rw [hname, h.status, field?_setStatus, if_pos rfl]
      · rw [h.others name hname, field?_setStatus, if_neg hname]
    · rw [h.data, setStatus_data_eq_none_iff]
  · rintro rfl
    constructor
    · rfl
    · rfl
    · rw [field?_setStatus, if_pos rfl]
    · intro name hname
      rw [field?_setStatus, if_neg hname]
    · exact setStatus_data_eq_none_iff

/-- The first of two statuses does not show in any field. -/
theorem field?_setStatus_setStatus (stored : Object) (first second : Option Json) (name : String) :
    ((stored.setStatus first).setStatus second).field? name =
      (stored.setStatus second).field? name := by
  rw [field?_setStatus, field?_setStatus, field?_setStatus]
  split <;> rfl

/-- It shows in nothing else either, unless it gave data to an object that had none, and the second
took it away: the data stay, without fields. -/
theorem setStatus_setStatus (stored : Object) (first second : Option Json) :
    (stored.setStatus first).setStatus second = stored.setStatus second ∨
      stored.data = none ∧ ((stored.setStatus first).setStatus second).data = some .empty ∧
        (stored.setStatus second).data = none := by
  by_cases htaken : stored.data = none ∧ first ≠ none ∧ second = none
  · obtain ⟨hnone, hfirst, rfl⟩ := htaken
    obtain ⟨status, rfl⟩ := Option.ne_none_iff_exists'.1 hfirst
    have hempty : (ObjectData.empty.insertStatus status).eraseStatus = .empty := by
      simp only [ObjectData.eraseStatus, ObjectData.insertStatus, ObjectData.empty,
        SortedMap.erase_insert]
      rfl
    right
    refine ⟨hnone, ?_, setStatus_data_eq_none_iff.2 ⟨hnone, rfl⟩⟩
    simp only [setStatus, hnone, hempty]
  · left
    apply eq_of_field?_eq
    · rfl
    · rfl
    · exact field?_setStatus_setStatus stored first second
    · rw [setStatus_data_eq_none_iff, setStatus_data_eq_none_iff, setStatus_data_eq_none_iff]
      tauto

theorem setStatus_setStatus_self (stored : Object) (status : Option Json) :
    (stored.setStatus status).setStatus status = stored.setStatus status := by
  rcases setStatus_setStatus stored status status with hsame | ⟨-, hempty, hnone⟩
  · exact hsame
  · -- A status that is written a second time is not taken away.
    have hstatus := (setStatus_data_eq_none_iff.1 hnone).2
    subst hstatus
    rw [(setStatus_data_eq_none_iff).2 ⟨hnone, rfl⟩] at hempty
    cases hempty

/-- An object that is written can be read as an object of any kind if its metadata can be. -/
theorem exists_decode?_toJson {object : Object} {metadata : ObjectMeta}
    (hmetadata : ObjectMeta.decode? object.metadata.toJson = some metadata) :
    ∃ read, Object.decode? object.toJson = some read := by
  have hwritten := object.field?_toJson_metadata
  rw [toJson_eq, Json.ofFields, Json.field?] at hwritten
  rw [toJson_eq, Json.ofFields, Object.decode?]
  simp only [hwritten, hmetadata]
  exact ⟨_, rfl⟩

/-- The metadata of an object is read from what is written as its metadata. -/
theorem decode?_metadata {json : Json} {object : Object}
    (hread : Object.decode? json = some object) :
    ObjectMeta.decode? ((json.field? "metadata").getD (.obj [])) = some object.metadata := by
  cases json with
  | obj fields =>
      rw [Object.decode?] at hread
      rw [Json.field?]
      cases hfield : Entries.get? "metadata" fields with
      | none =>
          simp only [hfield] at hread
          cases hread
          rfl
      | some written =>
          simp only [hfield] at hread
          obtain ⟨metadata, hmetadata, hread⟩ := Option.bind_eq_some_iff.1 hread
          cases hread
          exact hmetadata
  | _ => cases hread

end Object

/-- The metadata of a value are one of the fields that it is written with. -/
def ObjectType.WritesMetadata (type : ObjectType) (object : type.Value) : Prop :=
  (type.toJson object).field? "metadata" = some (type.metadata object).toJson

theorem ObjectType.writesMetadata_known {kind : ObjectKind} (object : KindObject kind) :
    (ObjectType.known kind).WritesMetadata object :=
  object.field?_metadata

theorem ObjectType.writesMetadata_dynamic (object : Object) :
    ObjectType.dynamic.WritesMetadata object :=
  object.field?_toJson_metadata

/-- A value that has the status of another and is an object as before otherwise. -/
structure Json.TakesStatus (before source after : Json) : Prop where
  isObject : after.isObject = before.isObject
  status : after.field? "status" = source.field? "status"
  others : ∀ name, name ≠ "status" → after.field? name = before.field? name

theorem Object.takesStatus (object source : Object) :
    Json.TakesStatus object.toJson source.toJson
      (object.setStatus (source.field? "status")).toJson where
  isObject := rfl
  status := by
    rw [field?_toJson_setStatus, if_pos rfl, field?_toJson, get?_header_status, Option.none_or]
  others name hname := by rw [field?_toJson_setStatus, if_neg hname]

theorem Json.defaulted?_congr {α : Type} {decode : Json → Option α} {name : String}
    {json other : Json} (default : α)
    (hsame : json.optional? decode name = other.optional? decode name) :
    json.defaulted? decode default name = other.defaulted? decode default name := by
  rw [defaulted?, defaulted?, hsame]

namespace Json.TakesStatus

variable {α : Type} {before source after : Json} {decode : Json → Option α} {name : String}

theorem optional?_eq (h : TakesStatus before source after) (hname : name ≠ "status") :
    after.optional? decode name = before.optional? decode name := by
  rw [optional?, h.others name hname]
  rfl

theorem optional?_status (h : TakesStatus before source after) :
    after.optional? decode "status" = source.optional? decode "status" := by
  rw [optional?, h.status]
  rfl

/-- Each field is read as before, or as that of the other value. -/
theorem optional?_cases (h : TakesStatus before source after) (decode : Json → Option α)
    (name : String) :
    after.optional? decode name = before.optional? decode name ∨
      after.optional? decode name = source.optional? decode name := by
  by_cases hname : name = "status"
  · subst hname
    exact .inr h.optional?_status
  · exact .inl (h.optional?_eq hname)

theorem typedHeader?_eq (h : TakesStatus before source after) (types : TypeMeta) :
    typedHeader? types after = typedHeader? types before := by
  have hversion := h.others "apiVersion" (by simp)
  have hkind := h.others "kind" (by simp)
  have hmetadata : after.optional? ObjectMeta.decode? "metadata" =
      before.optional? ObjectMeta.decode? "metadata" := h.optional?_eq (by simp)
  simp only [typedHeader?, defaulted?, h.isObject, hversion, hkind, hmetadata]

/-- The fields of a record are readable if they were readable before and those of the other value
are, too. -/
theorem exists_row (h : TakesStatus before source after) : (table : Table) →
    {row other : table.Row} → table.decode? before = some row →
    table.decode? source = some other → ∃ found, table.decode? after = some found
  | .nil => fun _ _ => ⟨(), rfl⟩
  | .optional name form rest => by
      intro hbefore hsource
      rw [Table.decode?_optional_iff] at hbefore hsource
      obtain ⟨others, hothers⟩ := h.exists_row rest hbefore.2 hsource.2
      rcases h.optional?_cases form.decode? name with hsame | hsame
      · exact ⟨(_, others), Table.decode?_optional_iff.2 ⟨hsame.trans hbefore.1, hothers⟩⟩
      · exact ⟨(_, others), Table.decode?_optional_iff.2 ⟨hsame.trans hsource.1, hothers⟩⟩
  | .required name form rest => by
      intro hbefore hsource
      rw [Table.decode?_required_iff] at hbefore hsource
      obtain ⟨others, hothers⟩ := h.exists_row rest hbefore.2 hsource.2
      rcases h.optional?_cases form.decode? name with hsame | hsame
      · have hvalue := (defaulted?_congr form.blank hsame).trans hbefore.1
        exact ⟨(_, others), Table.decode?_required_iff.2 ⟨hvalue, hothers⟩⟩
      · have hvalue := (defaulted?_congr form.blank hsame).trans hsource.1
        exact ⟨(_, others), Table.decode?_required_iff.2 ⟨hvalue, hothers⟩⟩

/-- What has a readable status, and was readable before it got it, is readable. -/
theorem exists_decode? {kind : ObjectKind} {value other : KindObject kind}
    (h : TakesStatus before source after) (hbefore : KindObject.decode? before = some value)
    (hsource : KindObject.decode? source = some other) :
    ∃ found : KindObject kind, KindObject.decode? after = some found := by
  rw [KindObject.decode?_eq_some_iff] at hbefore hsource
  obtain ⟨row, hrow⟩ := h.exists_row kind.table hbefore.2 hsource.2
  exact ⟨⟨value.metadata, row⟩, KindObject.decode?_eq_some_iff.2
    ⟨(h.typedHeader?_eq _).trans hbefore.1, hrow⟩⟩

end Json.TakesStatus

namespace Scheme

variable {scheme : Scheme} {type : ObjectType} {object : type.Value} {dynamic stored : Object}

theorem field?_stamp (gvk : GroupVersionKind) (json : Json) {name : String}
    (hversion : name ≠ "apiVersion") (hkind : name ≠ "kind") :
    (stamp gvk json).field? name = json.field? name := by
  have hne : ∀ {other : String}, name ≠ other → compare name other ≠ .eq :=
    fun hname hsame => hname (Std.LawfulEqOrd.eq_of_compare hsame)
  cases json with
  | obj fields =>
      simp only [stamp, Json.field?, Entries.get?_insert, if_neg (hne hversion),
        if_neg (hne hkind)]
  | _ => rfl

/-- An object of any kind has the metadata that what it was made from is written with. -/
theorem decode?_metadata_of_toDynamic (hwrites : type.WritesMetadata object)
    (hto : scheme.toDynamic type object = .ok dynamic) :
    ObjectMeta.decode? (type.metadata object).toJson = some dynamic.metadata := by
  obtain ⟨gvk, -, hread⟩ := toDynamic_eq_ok_iff.1 hto
  have hwritten := Object.decode?_metadata hread
  rwa [field?_stamp gvk _ (by simp) (by simp), hwrites, Option.getD_some] at hwritten

/-- An object that comes back when it was sent: one that was read from JSON with times that can be
written, of a kind that its type is registered for, or of any kind. -/
structure Faithful (scheme : Scheme) (type : ObjectType) (object : type.Value) : Prop where
  kind : type = .dynamic ∨ ∃ kind, type = .known kind ∧ scheme.registered type = some kind.gvk
  read : ∃ json, type.decode? json = some object
  civil : ∀ t ∈ type.times object, t.Civil

/-- What was sent is received if it can be kept under a reference. -/
theorem Faithful.exists_fromDynamic (h : Faithful scheme type object) {found : GroupVersionKind}
    (hto : scheme.toDynamic type object = .ok dynamic) (hgvk : dynamic.gvk = .ok found) :
    ∃ kept, scheme.fromDynamic type dynamic = .ok kept := by
  rcases h.kind with rfl | ⟨kind, rfl, hregistered⟩
  · have hmetadata :=
      decode?_metadata_of_toDynamic (ObjectType.writesMetadata_dynamic object) hto
    obtain ⟨read, hread⟩ :=
      Object.exists_decode?_toJson (ObjectMeta.settles.decode_encode hmetadata)
    exact ⟨read, fromDynamic_eq_ok_iff.2 ⟨found, hgvk, fun hne => absurd rfl hne, hread⟩⟩
  · obtain ⟨json, hread⟩ := h.read
    have hmetaCivil : ∀ t ∈ object.metadata.times, t.Civil := fun t ht =>
      h.civil t (List.mem_append_left _ ht)
    obtain ⟨same, hsame, htypes, -, hwritten⟩ := exists_toDynamic hregistered hread hmetaCivil
    obtain rfl : same = dynamic := Except.ok.inj (hsame.symm.trans hto)
    refine ⟨object.truncate, fromDynamic_eq_ok hregistered htypes ?_⟩
    rw [hwritten]
    exact KindObject.roundTrips.decode_encode hread h.civil

/-- What can be received can still be received when it was given the status of an object that comes
back. -/
theorem Faithful.exists_fromDynamic_setStatus (h : Faithful scheme type object)
    (hto : scheme.toDynamic type object = .ok dynamic) {found : GroupVersionKind}
    (hgvk : dynamic.gvk = .ok found) {value : type.Value}
    (hstored : scheme.fromDynamic type stored = .ok value) :
    ∃ kept, scheme.fromDynamic type (stored.setStatus (dynamic.field? "status")) = .ok kept := by
  have hsame : (stored.setStatus (dynamic.field? "status")).gvk = stored.gvk := rfl
  obtain ⟨kind, hkind, hexpected, hbefore⟩ := fromDynamic_eq_ok_iff.1 hstored
  obtain ⟨kept, hkept⟩ : ∃ kept,
      type.decode? (stored.setStatus (dynamic.field? "status")).toJson = some kept := by
    obtain ⟨sent, hsent⟩ := h.exists_fromDynamic hto hgvk
    rcases h.kind with rfl | ⟨gvk, rfl, -⟩
    · have hread : Object.decode? stored.toJson = some value := hbefore
      have hmetadata := Object.decode?_metadata hread
      rw [Object.field?_toJson_metadata] at hmetadata
      exact Object.exists_decode?_toJson hmetadata
    · obtain ⟨-, -, -, hsource⟩ := fromDynamic_eq_ok_iff.1 hsent
      exact (stored.takesStatus dynamic).exists_decode? hbefore hsource
  exact ⟨kept, fromDynamic_eq_ok_iff.2 ⟨kind, hsame.trans hkind, hexpected, hkept⟩⟩

end Scheme

end Reconciler
