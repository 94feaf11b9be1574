import Reconciler.Proofs.Condition.Reread
import Reconciler.Proofs.Object.Status
/-!
Objects that were received, and are changed and sent back.  What was received has metadata that are
read again as they are, so that it can be sent, and it goes back to where it came from.
-/
namespace Reconciler

open Json

/-- A field that is set to an object can only be read as what the object is read as. -/
theorem Json.defaulted?_of_field? {α : Type} {decode : Json → Option α} {default value : α}
    {json field : Json} {name : String} (hfield : json.field? name = some field)
    (hobject : field.isObject = true)
    (hread : json.defaulted? decode default name = some value) : decode field = some value := by
  obtain ⟨set, hset, hvalue⟩ := Option.map_eq_some_iff.1 hread
  rcases optional?_eq_some_iff.1 hset with ⟨hnull, -⟩ | ⟨found, read, hfound, -, hdecode, rfl⟩
  · rw [hfield, Option.getD_some] at hnull
    subst hnull
    cases hobject
  · obtain rfl : field = found := Option.some.inj (hfield.symm.trans hfound)
    obtain rfl : read = value := hvalue
    exact hdecode

/-- Settled metadata are read next to the type information of a kind. -/
theorem typedHeader?_of_settled {types : TypeMeta} {written : Json} {metadata : ObjectMeta}
    (hsettled : ObjectMeta.decode? metadata.toJson = some metadata)
    (hobject : written.isObject = true)
    (hversion : written.field? "apiVersion" = some (.str types.apiVersion))
    (hkind : written.field? "kind" = some (.str types.kind))
    (hmetadata : written.field? "metadata" = some metadata.toJson) :
    typedHeader? types written = some metadata := by
  have hread : written.defaulted? ObjectMeta.decode? {} "metadata" = some metadata := by
    refine Option.map_eq_some_iff.2 ⟨some metadata, ?_, rfl⟩
    exact optional?_eq_some_iff.2
      (.inr ⟨metadata.toJson, metadata, hmetadata, present_ne_null _, hsettled, rfl⟩)
  simp only [typedHeader?, hobject, hversion, hkind, asString?, decide_true, and_self, if_true,
    hread]

namespace ObjectMeta

/-- Other finalizers show in one field. -/
theorem field?_toJson_withFinalizers (metadata : ObjectMeta) (finalizers : Option (List String))
    {name : String} (hname : name ≠ "finalizers") :
    ({ metadata with finalizers } : ObjectMeta).toJson.field? name =
      metadata.toJson.field? name := by
  have hne : (name == "finalizers") = false := by simpa using hname
  rw [toJson, toJson, field?_present_eq (by simp), field?_present_eq (by simp)]
  simp only [List.lookup_cons, hne]

/-- Metadata that are read as they are stay so with other finalizers. -/
theorem settled_withFinalizers {metadata : ObjectMeta}
    (hsettled : decode? metadata.toJson = some metadata) (finalizers : List String) :
    decode? ({ metadata with finalizers := some finalizers } : ObjectMeta).toJson =
      some { metadata with finalizers := some finalizers } := by
  have hother : ∀ {α : Type} {decode : Json → Option α} {name : String}, name ≠ "finalizers" →
      ({ metadata with finalizers := some finalizers } : ObjectMeta).toJson.optional? decode name =
        metadata.toJson.optional? decode name := by
    intro α decode name hname
    rw [optional?, field?_toJson_withFinalizers metadata (some finalizers) hname]
    rfl
  have hown : ({ metadata with finalizers := some finalizers } : ObjectMeta).toJson.field?
      "finalizers" = some (.strings finalizers) :=
    field?_present (by simp) (by simp)
  rw [decode?_eq_some_iff] at hsettled ⊢
  exact
    { isObject := rfl
      annotations := (hother (by simp)).trans hsettled.annotations
      creationTimestamp := (hother (by simp)).trans hsettled.creationTimestamp
      deletionGracePeriodSeconds := (hother (by simp)).trans hsettled.deletionGracePeriodSeconds
      deletionTimestamp := (hother (by simp)).trans hsettled.deletionTimestamp
      finalizers := optional?_eq_some_iff.2
        (.inr ⟨_, finalizers, hown, by simp [strings], asList?_strings finalizers, rfl⟩)
      generateName := (hother (by simp)).trans hsettled.generateName
      generation := (hother (by simp)).trans hsettled.generation
      labels := (hother (by simp)).trans hsettled.labels
      managedFields := (hother (by simp)).trans hsettled.managedFields
      name := (hother (by simp)).trans hsettled.name
      namespaceName := (hother (by simp)).trans hsettled.namespaceName
      ownerReferences := (hother (by simp)).trans hsettled.ownerReferences
      resourceVersion := (hother (by simp)).trans hsettled.resourceVersion
      selfLink := (hother (by simp)).trans hsettled.selfLink
      uid := (hother (by simp)).trans hsettled.uid }

/-- Metadata that can be read again keep the finalizers. -/
theorem finalizers_of_decode? {written read : ObjectMeta}
    (hread : decode? written.toJson = some read) : read.finalizers = written.finalizers := by
  have hfield : written.toJson.field? "finalizers" = written.finalizers.map .strings :=
    field?_present (by simp) (by simp)
  have hwritten : written.toJson.optional? (asList? asString?) "finalizers" =
      some written.finalizers := by
    rw [optional?, hfield]
    cases written.finalizers with
    | none => rfl
    | some finalizers => exact congrArg (Option.map some) (asList?_strings finalizers)
  exact Option.some.inj ((decode?_eq_some_iff.1 hread).finalizers.symm.trans hwritten)

end ObjectMeta

namespace Scheme

variable {scheme : Scheme} {kind : ObjectKind} {object : Object} {value changed : KindObject kind}

/-- The metadata of what was received are read from those of the object that is kept. -/
theorem decode?_metadata_of_fromDynamic
    (hvalue : scheme.fromDynamic (.known kind) object = .ok value) :
    ObjectMeta.decode? object.metadata.toJson = some value.metadata := by
  obtain ⟨_, -, -, hread⟩ := fromDynamic_eq_ok_iff.1 hvalue
  have hheader := defaulted?_of_typedHeader? (KindObject.decode?_eq_some_iff.1 hread).1
  exact defaulted?_of_field? object.field?_toJson_metadata rfl hheader

theorem settled_of_fromDynamic (hvalue : scheme.fromDynamic (.known kind) object = .ok value) :
    ObjectMeta.decode? value.metadata.toJson = some value.metadata :=
  ObjectMeta.settles.decode_encode (decode?_metadata_of_fromDynamic hvalue)

/-- What was received and changed, but not in its name or namespace, is sent as it is written, and
to where it came from. -/
theorem exists_sent (hregistered : scheme.registered (.known kind) = some kind.gvk)
    (hvalue : scheme.fromDynamic (.known kind) object = .ok value)
    (hsettled : ObjectMeta.decode? changed.metadata.toJson = some changed.metadata)
    (hname : changed.metadata.name = value.metadata.name)
    (hplace : changed.metadata.namespaceName = value.metadata.namespaceName) :
    ∃ dynamic, scheme.toDynamic (.known kind) changed = .ok dynamic ∧
      dynamic.types = some kind.gvk.types ∧ dynamic.metadata = changed.metadata ∧
      dynamic.toJson = changed.toJson ∧
      ObjectRef.ofObject dynamic = ObjectRef.ofObject object := by
  obtain ⟨dynamic, hto, htypes, hmetadata, hwritten⟩ :=
    exists_toDynamic_of_metadata hregistered hsettled rfl
  refine ⟨dynamic, hto, htypes, hmetadata, hwritten, ?_⟩
  obtain ⟨found, hfound, hexpected, -⟩ := fromDynamic_eq_ok_iff.1 hvalue
  obtain ⟨expected, hgvk, hkind⟩ := hexpected (by simp)
  obtain rfl : kind.gvk = expected := Except.ok.inj ((gvk_eq_ok hregistered).symm.trans hgvk)
  obtain ⟨hnames, hplaces⟩ :=
    ObjectMeta.texts_of_decode? (decode?_metadata_of_fromDynamic hvalue)
  have hkey : ObjectKey.ofObject dynamic = ObjectKey.ofObject object := by
    rw [ObjectKey.ofObject, ObjectKey.ofObject, hmetadata, ObjectKey.ofMeta, ObjectKey.ofMeta,
      hname, hplace, hnames, hplaces]
  rw [ObjectRef.ofObject, ObjectRef.ofObject, gvk_of_types htypes, hfound, Except.map,
    Except.map, hkey, hkind]

end Scheme

/-- An object without times but those of its metadata is read again with other metadata, if these
are settled. -/
theorem KindObject.decode?_withMetadata {kind : ObjectKind} {json : Json}
    {object : KindObject kind} {metadata : ObjectMeta} (hread : decode? json = some object)
    (htimeless : kind.table.timeless = true)
    (hsettled : ObjectMeta.decode? metadata.toJson = some metadata) :
    decode? (toJson { object with metadata } : Json) = some { object with metadata } := by
  have hcivil : ∀ t ∈ kind.table.times object.row, t.Civil := by
    simp [kind.table.times_eq_nil htimeless]
  have hrow := kind.table.decode?_written kind.sound (decode?_eq_some_iff.1 hread).2 hcivil
    fun _ hfield => field?_row ⟨metadata, object.row⟩ hfield
  rw [kind.table.truncate_eq_id htimeless] at hrow
  exact decode?_eq_some_iff.2 ⟨typedHeader?_of_settled hsettled rfl (field?_apiVersion _)
    (field?_kind _) (field?_metadata _), hrow⟩

namespace Deployment

/-- Read the state of a deployment. -/
abbrev decodeStatus? : Json → Option Status :=
  (Form.record statusTable).decode?

/-- The JSON form of a state. -/
abbrev statusJson : Status → Json :=
  (Form.record statusTable).toJson

/-- A field of a state is what is written of it. -/
theorem field?_statusJson (status : Status) {name : String} {value : Option Json}
    (hmem : (name, value) ∈ statusTable.fields status) :
    (statusJson status).field? name = value :=
  field?_present (statusTable.nodup_fields (by decide) status) hmem

theorem field?_conditions (status : Status) :
    (statusJson status).field? "conditions" = status.conditions.map fun conditions =>
      .arr (conditions.map Condition.Record.toJson) :=
  field?_statusJson status (.tail _ (.tail _ (.head _)))

/-- A state with other conditions is written with these, and as before otherwise. -/
theorem fields_withConditions (status : Status) (conditions : Option (List Condition.Record)) :
    statusTable.fields (status.withConditions conditions) =
      (statusTable.fields status).take 2 ++
        ("conditions", conditions.map fun found => .arr (found.map Condition.Record.toJson)) ::
          (statusTable.fields status).drop 3 := rfl

/-- Conditions that are written the same make no difference. -/
theorem statusJson_withConditions_congr (status : Status)
    {conditions others : Option (List Condition.Record)}
    (hsame : conditions.map (List.map Condition.Record.toJson) =
      others.map (List.map Condition.Record.toJson)) :
    statusJson (status.withConditions conditions) = statusJson (status.withConditions others) := by
  have hwritten := congrArg (Option.map Json.arr) hsame
  rw [Option.map_map, Option.map_map] at hwritten
  apply congrArg Json.present
  rw [fields_withConditions, fields_withConditions]
  exact congrArg (fun written => _ ++ ("conditions", written) :: _) hwritten

/-- A state that can be read again when it was written: all but its conditions was read. -/
structure Status.Rereadable (status : Status) : Prop where
  others : ∃ json found, statusTable.decode? json = some (status.withConditions found)
  conditions : ∀ found ∈ status.conditions, ∀ record ∈ found, record.Rereadable

/-- The numbers of a state are read again from what is written. -/
theorem decodeStatus?_statusJson {status : Status} {json : Json}
    {before conditions : Option (List Condition.Record)}
    (hread : statusTable.decode? json = some (status.withConditions before))
    (hconditions : (statusJson status).optional?
      (Form.list (.condition .deployment)).decode? "conditions" = some conditions) :
    decodeStatus? (statusJson status) = some (status.withConditions conditions) := by
  have hkept : ∀ (position : Nat) {bits : Nat} {name : String} {value : Option Int},
      (statusTable.fields status)[position]? = some (name, value.map Json.int) →
        json.optional? (asInt? bits) name = some value →
          (statusJson status).optional? (asInt? bits) name = some value :=
    fun _ _ _ _ hget hvalue =>
      (survives_int _).optional? hvalue (field?_statusJson status (List.mem_of_getElem? hget))
  obtain ⟨havailable, hread⟩ := Table.decode?_optional_iff.1 hread
  obtain ⟨hcollisions, hread⟩ := Table.decode?_optional_iff.1 hread
  obtain ⟨-, hread⟩ := Table.decode?_optional_iff.1 hread
  obtain ⟨hobserved, hread⟩ := Table.decode?_optional_iff.1 hread
  obtain ⟨hready, hread⟩ := Table.decode?_optional_iff.1 hread
  obtain ⟨hreplicas, hread⟩ := Table.decode?_optional_iff.1 hread
  obtain ⟨hunavailable, hread⟩ := Table.decode?_optional_iff.1 hread
  obtain ⟨hupdated, -⟩ := Table.decode?_optional_iff.1 hread
  refine Option.bind_eq_of_eq_some _ (show asObject? _ = some _ from rfl) ?_
  refine Table.decode?_optional_iff.2 ⟨hkept 0 rfl havailable, ?_⟩
  refine Table.decode?_optional_iff.2 ⟨hkept 1 rfl hcollisions, ?_⟩
  refine Table.decode?_optional_iff.2 ⟨hconditions, ?_⟩
  refine Table.decode?_optional_iff.2 ⟨hkept 3 rfl hobserved, ?_⟩
  refine Table.decode?_optional_iff.2 ⟨hkept 4 rfl hready, ?_⟩
  refine Table.decode?_optional_iff.2 ⟨hkept 5 rfl hreplicas, ?_⟩
  refine Table.decode?_optional_iff.2 ⟨hkept 6 rfl hunavailable, ?_⟩
  refine Table.decode?_optional_iff.2 ⟨hkept 7 rfl hupdated, ?_⟩
  rfl

/-- What is read of a state that was written is the same but for its conditions, which are written
the same. -/
theorem exists_reread {status : Status} (h : status.Rereadable) :
    ∃ found, decodeStatus? (statusJson status) = some (status.withConditions found) ∧
      (∀ records ∈ found, ∀ record ∈ records, record.Rereadable) ∧
      found.map (List.map Condition.Record.toJson) =
        status.conditions.map (List.map Condition.Record.toJson) := by
  obtain ⟨json, before, hread⟩ := h.others
  obtain ⟨conditions, hconditions, hsame, hgood⟩ := Rereads.optional?
    (fun found hfound => Rereads.list fun record hrecord =>
      (h.conditions found hfound record hrecord).rereads) (by simp) (field?_conditions status)
  refine ⟨conditions, decodeStatus?_statusJson hread hconditions, hgood, ?_⟩
  apply Option.map_injective fun _ _ => Json.arr.inj
  rw [Option.map_map, Option.map_map]
  exact hsame

variable {pod : PodForm} {scheme : Scheme} {object : Object} {deployment : Deployment pod}

/-- A deployment that was received is sent back with another state. -/
theorem exists_sent
    (hregistered : scheme.registered (.known (kind pod)) = some (kind pod).gvk)
    (hvalue : scheme.fromDynamic (.known (kind pod)) object = .ok deployment) (status : Status) :
    ∃ dynamic, scheme.toDynamic (.known (kind pod)) (deployment.withStatus (some status)) =
        .ok dynamic ∧
      dynamic.field? "status" = some (statusJson status) ∧
      ObjectRef.ofObject dynamic = ObjectRef.ofObject object := by
  have hsettled : ObjectMeta.decode? deployment.metadata.toJson = some deployment.metadata :=
    Scheme.settled_of_fromDynamic hvalue
  obtain ⟨dynamic, hto, -, -, hwritten, hsame⟩ :=
    @Scheme.exists_sent scheme (kind pod) object deployment (deployment.withStatus (some status))
      hregistered hvalue hsettled rfl rfl
  refine ⟨dynamic, hto, ?_, hsame⟩
  have hfield := congrArg (Json.field? "status") hwritten
  rw [Object.field?_toJson, Object.get?_header_status, Option.none_or] at hfield
  have hmem : ("status", some (statusJson status)) ∈
      (table pod).fields (deployment.withStatus (some status)).row := .tail _ (.head _)
  exact hfield.trans (KindObject.field?_row (deployment.withStatus (some status)) hmem)

/-- A deployment whose state was replaced is received with this state, and as before otherwise. -/
theorem fromDynamic_setStatus {source : Object} {status : Option Status}
    (hvalue : scheme.fromDynamic (.known (kind pod)) object = .ok deployment)
    (hstatus : source.toJson.optional? decodeStatus? "status" = some status) :
    scheme.fromDynamic (.known (kind pod)) (object.setStatus (source.field? "status")) =
      .ok (deployment.withStatus status) := by
  obtain ⟨found, hfound, hexpected, hread⟩ := Scheme.fromDynamic_eq_ok_iff.1 hvalue
  have htakes := object.takesStatus source
  refine Scheme.fromDynamic_eq_ok_iff.2 ⟨found, hfound, hexpected, ?_⟩
  obtain ⟨hheader, hrow⟩ := KindObject.decode?_eq_some_iff.1 hread
  obtain ⟨hspec, -⟩ := Table.decode?_optional_iff.1 hrow
  refine KindObject.decode?_eq_some_iff.2 ⟨(htakes.typedHeader?_eq _).trans hheader, ?_⟩
  refine Table.decode?_optional_iff.2 ⟨(htakes.optional?_eq (by simp)).trans hspec, ?_⟩
  exact Table.decode?_optional_iff.2 ⟨htakes.optional?_status.trans hstatus, rfl⟩

end Deployment

end Reconciler
