import Reconciler.Proofs.Json.RoundTrip
/-!
Metadata survives being written, with its times in whole seconds.
-/
namespace Reconciler

open Json

theorem OwnerReference.survives : Survives OwnerReference.decode? OwnerReference.toJson where
  ne_null _ _ := present_ne_null _
  decode_encode {json reference} hread _ := by
    simp only [OwnerReference.decode?, Option.bind_eq_bind, Option.bind_eq_some_iff,
      Option.pure_def, Option.some.injEq] at hread ⊢
    obtain ⟨object, -, apiVersion, hapiVersion, kind, hkind, name, hname, uid, huid,
      controller, hcontroller, blockOwnerDeletion, hblockOwnerDeletion, hreference⟩ := hread
    have hfield : ∀ {name : String} {value : Option Json}, (name, value) ∈ _ →
        reference.toJson.field? name = value := field?_present (by simp)
    subst hreference
    exact ⟨_, rfl, _, survives_text hapiVersion (hfield (by simp)),
      _, survives_text hkind (hfield (by simp)), _, survives_text hname (hfield (by simp)),
      _, survives_text huid (hfield (by simp)),
      _, survives_bool.optional? hcontroller (hfield (by simp)),
      _, survives_bool.optional? hblockOwnerDeletion (hfield (by simp)), rfl⟩

namespace ManagedFields

/-- The times of an entry. -/
def times (managed : ManagedFields) : List Instant :=
  managed.time.toList

/-- An entry with its time in whole seconds. -/
def truncate (managed : ManagedFields) : ManagedFields :=
  { managed with time := managed.time.map Instant.truncate }

/-- The fields that an entry is read from. -/
structure ReadFrom (json : Json) (managed : ManagedFields) : Prop where
  isObject : json.isObject = true
  apiVersion : json.optional? asString? "apiVersion" = some managed.apiVersion
  fieldsType : json.optional? asString? "fieldsType" = some managed.fieldsType
  fieldsV1 : json.optional? some "fieldsV1" = some managed.fieldsV1
  manager : json.optional? asString? "manager" = some managed.manager
  operation : json.optional? asString? "operation" = some managed.operation
  subresource : json.optional? asString? "subresource" = some managed.subresource
  time : json.optional? asTime? "time" = some managed.time

theorem decode?_eq_some_iff {json : Json} {managed : ManagedFields} :
    decode? json = some managed ↔ ReadFrom json managed := by
  simp only [decode?, asObject?, Option.bind_eq_bind, Option.bind_eq_some_iff, Option.pure_def,
    Option.some.injEq, Option.ite_none_right_eq_some]
  constructor
  · rintro ⟨_, ⟨hobject, rfl⟩, _, hversion, _, htype, _, hfields, _, hmanager, _, hoperation, _,
      hsubresource, _, htime, rfl⟩
    exact ⟨hobject, hversion, htype, hfields, hmanager, hoperation, hsubresource, htime⟩
  · rintro ⟨hobject, hversion, htype, hfields, hmanager, hoperation, hsubresource, htime⟩
    exact ⟨json, ⟨hobject, rfl⟩, _, hversion, _, htype, _, hfields, _, hmanager, _, hoperation, _,
      hsubresource, _, htime, rfl⟩

theorem roundTrips : RoundTrips ManagedFields.decode? ManagedFields.toJson truncate times where
  ne_null _ _ := present_ne_null _
  decode_encode {json managed} hread hcivil := by
    rw [decode?_eq_some_iff] at hread ⊢
    have hfield : ∀ {name : String} {value : Option Json}, (name, value) ∈ _ →
        managed.toJson.field? name = value := field?_present (by simp)
    exact
      { isObject := rfl
        apiVersion := survives_string.optional? hread.apiVersion (hfield (by simp [truncate]))
        fieldsType := survives_string.optional? hread.fieldsType (hfield (by simp [truncate]))
        fieldsV1 := survives_some.optional? hread.fieldsV1 (hfield (by simp [truncate]))
        manager := survives_string.optional? hread.manager (hfield (by simp [truncate]))
        operation := survives_string.optional? hread.operation (hfield (by simp [truncate]))
        subresource := survives_string.optional? hread.subresource (hfield (by simp [truncate]))
        time := roundTrips_seconds.optional? hread.time (by simpa [times] using hcivil)
          (hfield (by simp)) }

theorem toJson_truncate (managed : ManagedFields) : managed.truncate.toJson = managed.toJson := by
  have htime : (managed.time.map Instant.truncate).map (Json.time 0) =
      managed.time.map (Json.time 0) := by
    rw [Option.map_map]
    exact congrArg (Option.map · managed.time) (funext time_truncate)
  simp only [toJson, truncate, htime]

end ManagedFields

namespace ObjectMeta

/-- The times of metadata, those of the managers among them. -/
def times (metadata : ObjectMeta) : List Instant :=
  metadata.creationTimestamp.toList ++ metadata.deletionTimestamp.toList ++
    (metadata.managedFields.getD []).flatMap ManagedFields.times

/-- Metadata with times in whole seconds. -/
def truncate (metadata : ObjectMeta) : ObjectMeta :=
  { metadata with
    creationTimestamp := metadata.creationTimestamp.map Instant.truncate
    deletionTimestamp := metadata.deletionTimestamp.map Instant.truncate
    managedFields := metadata.managedFields.map (List.map ManagedFields.truncate) }

/-- The fields that metadata are read from. -/
structure ReadFrom (json : Json) (metadata : ObjectMeta) : Prop where
  isObject : json.isObject = true
  annotations :
    json.optional? (asMap? asString?) "annotations" = some metadata.annotations
  creationTimestamp : json.optional? asTime? "creationTimestamp" = some metadata.creationTimestamp
  deletionGracePeriodSeconds : json.optional? (asInt? 64) "deletionGracePeriodSeconds" =
    some metadata.deletionGracePeriodSeconds
  deletionTimestamp : json.optional? asTime? "deletionTimestamp" = some metadata.deletionTimestamp
  finalizers : json.optional? (asList? asString?) "finalizers" = some metadata.finalizers
  generateName : json.optional? asString? "generateName" = some metadata.generateName
  generation : json.optional? (asInt? 64) "generation" = some metadata.generation
  labels : json.optional? (asMap? asString?) "labels" = some metadata.labels
  managedFields : json.optional? (asList? ManagedFields.decode?) "managedFields" =
    some metadata.managedFields
  name : json.optional? asString? "name" = some metadata.name
  namespaceName : json.optional? asString? "namespace" = some metadata.namespaceName
  ownerReferences : json.optional? (asList? OwnerReference.decode?) "ownerReferences" =
    some metadata.ownerReferences
  resourceVersion : json.optional? asString? "resourceVersion" = some metadata.resourceVersion
  selfLink : json.optional? asString? "selfLink" = some metadata.selfLink
  uid : json.optional? asString? "uid" = some metadata.uid

theorem decode?_eq_some_iff {json : Json} {metadata : ObjectMeta} :
    decode? json = some metadata ↔ ReadFrom json metadata := by
  constructor
  · intro hread
    obtain ⟨object, hobject, hread⟩ := Option.bind_eq_some_iff.1 hread
    obtain ⟨hisObject, hsame⟩ := Option.ite_none_right_eq_some.1 hobject
    obtain ⟨annotations, hannotations, hread⟩ := Option.bind_eq_some_iff.1 hread
    obtain ⟨created, hcreated, hread⟩ := Option.bind_eq_some_iff.1 hread
    obtain ⟨period, hperiod, hread⟩ := Option.bind_eq_some_iff.1 hread
    obtain ⟨deleted, hdeleted, hread⟩ := Option.bind_eq_some_iff.1 hread
    obtain ⟨finalizers, hfinalizers, hread⟩ := Option.bind_eq_some_iff.1 hread
    obtain ⟨generateName, hgenerateName, hread⟩ := Option.bind_eq_some_iff.1 hread
    obtain ⟨generation, hgeneration, hread⟩ := Option.bind_eq_some_iff.1 hread
    obtain ⟨labels, hlabels, hread⟩ := Option.bind_eq_some_iff.1 hread
    obtain ⟨managed, hmanaged, hread⟩ := Option.bind_eq_some_iff.1 hread
    obtain ⟨name, hname, hread⟩ := Option.bind_eq_some_iff.1 hread
    obtain ⟨namespaceName, hnamespaceName, hread⟩ := Option.bind_eq_some_iff.1 hread
    obtain ⟨owners, howners, hread⟩ := Option.bind_eq_some_iff.1 hread
    obtain ⟨version, hversion, hread⟩ := Option.bind_eq_some_iff.1 hread
    obtain ⟨link, hlink, hread⟩ := Option.bind_eq_some_iff.1 hread
    obtain ⟨uid, huid, hread⟩ := Option.bind_eq_some_iff.1 hread
    cases hread
    cases hsame
    exact ⟨hisObject, hannotations, hcreated, hperiod, hdeleted, hfinalizers, hgenerateName,
      hgeneration, hlabels, hmanaged, hname, hnamespaceName, howners, hversion, hlink, huid⟩
  · intro h
    refine Option.bind_eq_of_eq_some _ (show asObject? json = some json from if_pos h.isObject) ?_
    refine Option.bind_eq_of_eq_some _ h.annotations ?_
    refine Option.bind_eq_of_eq_some _ h.creationTimestamp ?_
    refine Option.bind_eq_of_eq_some _ h.deletionGracePeriodSeconds ?_
    refine Option.bind_eq_of_eq_some _ h.deletionTimestamp ?_
    refine Option.bind_eq_of_eq_some _ h.finalizers ?_
    refine Option.bind_eq_of_eq_some _ h.generateName ?_
    refine Option.bind_eq_of_eq_some _ h.generation ?_
    refine Option.bind_eq_of_eq_some _ h.labels ?_
    refine Option.bind_eq_of_eq_some _ h.managedFields ?_
    refine Option.bind_eq_of_eq_some _ h.name ?_
    refine Option.bind_eq_of_eq_some _ h.namespaceName ?_
    refine Option.bind_eq_of_eq_some _ h.ownerReferences ?_
    refine Option.bind_eq_of_eq_some _ h.resourceVersion ?_
    refine Option.bind_eq_of_eq_some _ h.selfLink ?_
    refine Option.bind_eq_of_eq_some _ h.uid ?_
    rfl

theorem roundTrips : RoundTrips ObjectMeta.decode? ObjectMeta.toJson truncate times where
  ne_null _ _ := present_ne_null _
  decode_encode {json metadata} hread hcivil := by
    rw [decode?_eq_some_iff] at hread ⊢
    have hfield : ∀ {name : String} {value : Option Json}, (name, value) ∈ _ →
        metadata.toJson.field? name = value := field?_present (by simp)
    obtain ⟨hownCivil, hentriesCivil⟩ := List.forall_mem_append.1 hcivil
    obtain ⟨hcreatedCivil, hdeletedCivil⟩ := List.forall_mem_append.1 hownCivil
    have hmanagedCivil : ∀ found ∈ metadata.managedFields,
        ∀ t ∈ found.flatMap ManagedFields.times, t.Civil := by
      intro found hfound
      rwa [show metadata.managedFields = some found from hfound] at hentriesCivil
    exact
      { isObject := rfl
        annotations := survives_stringMap.optional? hread.annotations (hfield (by simp [truncate]))
        creationTimestamp := roundTrips_seconds.optional? hread.creationTimestamp
          (by simpa using hcreatedCivil) (hfield (by simp))
        deletionGracePeriodSeconds :=
          (survives_int 64).optional? hread.deletionGracePeriodSeconds (hfield (by simp [truncate]))
        deletionTimestamp := roundTrips_seconds.optional? hread.deletionTimestamp
          (by simpa using hdeletedCivil) (hfield (by simp))
        finalizers := survives_strings.optional? hread.finalizers (hfield (by simp [truncate]))
        generateName := survives_string.optional? hread.generateName (hfield (by simp [truncate]))
        generation := (survives_int 64).optional? hread.generation (hfield (by simp [truncate]))
        labels := survives_stringMap.optional? hread.labels (hfield (by simp [truncate]))
        managedFields := ManagedFields.roundTrips.list.optional? hread.managedFields
          hmanagedCivil (hfield (by simp))
        name := survives_string.optional? hread.name (hfield (by simp [truncate]))
        namespaceName := survives_string.optional? hread.namespaceName (hfield (by simp [truncate]))
        ownerReferences :=
          OwnerReference.survives.list.optional? hread.ownerReferences (hfield (by simp [truncate]))
        resourceVersion :=
          survives_string.optional? hread.resourceVersion (hfield (by simp [truncate]))
        selfLink := survives_string.optional? hread.selfLink (hfield (by simp [truncate]))
        uid := survives_string.optional? hread.uid (hfield (by simp [truncate])) }

/-- What is lost of metadata does not show in its JSON form. -/
theorem toJson_truncate (metadata : ObjectMeta) : metadata.truncate.toJson = metadata.toJson := by
  have htime : ∀ t : Option Instant, (t.map Instant.truncate).map (time 0) = t.map (time 0) := by
    intro t
    rw [Option.map_map]
    exact congrArg (Option.map · t) (funext time_truncate)
  have hmanaged : ∀ managed : List ManagedFields,
      (managed.map ManagedFields.truncate).map ManagedFields.toJson =
        managed.map ManagedFields.toJson := by
    intro managed
    rw [List.map_map]
    exact List.map_congr_left fun entry _ => entry.toJson_truncate
  simp only [toJson, truncate, htime, Option.map_map, Function.comp_def, hmanaged]

end ObjectMeta

end Reconciler
