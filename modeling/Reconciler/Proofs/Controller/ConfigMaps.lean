import Reconciler.Controller.ConfigMaps
import Reconciler.Proofs.Client.Finalizer
import Reconciler.Proofs.Controller.Walk
import Reconciler.Proofs.Object.Received
/-!
The pass that protects config maps.  A config map is only sent if it lacks the finalizer, and is
received with it, so that a second pass sends nothing.
-/
namespace Reconciler.ConfigMaps

/-- A config map with the finalizer: as it was if it has it, else with it after the others. -/
def protectedOf (configMap : ConfigMap) : ConfigMap :=
  { configMap with metadata := (configMap.metadata.addFinalizer finalizer).2 }

/-- An object that was received as a config map, and is received with the finalizer. -/
structure Protects (scheme : Scheme) (before after : Object) : Prop where
  received : ∃ configMap, scheme.fromDynamic (.known ConfigMap.kind) before = .ok configMap ∧
    scheme.fromDynamic (.known ConfigMap.kind) after = .ok (protectedOf configMap)
  place : ObjectRef.ofObject after = ObjectRef.ofObject before
  /-- It is there once, unless it was repeated. -/
  once : after.metadata.finalizerList.count finalizer =
    max 1 (before.metadata.finalizerList.count finalizer)
  others : after.metadata.finalizerList.filter (· ≠ finalizer) =
    before.metadata.finalizerList.filter (· ≠ finalizer)
  spared : finalizer ∈ before.metadata.finalizerList → after = before

variable {scheme : Scheme} {before after : Object} {configMap : ConfigMap} {store : Store}

/-- What was received has the finalizers of the object. -/
theorem finalizerList_of_received
    (hreceived : scheme.fromDynamic (.known ConfigMap.kind) before = .ok configMap) :
    configMap.metadata.finalizerList = before.metadata.finalizerList := by
  have hread : ObjectMeta.decode? before.metadata.toJson = some configMap.metadata :=
    Scheme.decode?_metadata_of_fromDynamic hreceived
  rw [ObjectMeta.finalizerList, ObjectMeta.finalizerList, ObjectMeta.finalizers_of_decode? hread]

theorem protectedOf_of_mem (hmem : finalizer ∈ configMap.metadata.finalizerList) :
    protectedOf configMap = configMap := by
  simp [protectedOf, ObjectMeta.addFinalizer, ObjectMeta.hasFinalizer, hmem]

theorem protectedOf_of_not_mem (hmem : finalizer ∉ configMap.metadata.finalizerList) :
    protectedOf configMap =
      { configMap with
        metadata := { configMap.metadata with
          finalizers := some (configMap.metadata.finalizerList ++ [finalizer]) } } := by
  simp [protectedOf, ObjectMeta.addFinalizer, ObjectMeta.hasFinalizer, hmem]

/-- A config map that has the finalizer is left alone. -/
theorem on_protectOne_of_mem (hmem : finalizer ∈ configMap.metadata.finalizerList)
    (progress : Progress Store) :
    (protectOne (Store.client scheme) configMap).on progress = (.ok (), progress) := by
  simp [protectOne, ObjectMeta.addFinalizer, ObjectMeta.hasFinalizer, hmem]

/-- A config map that lacks it is sent with it, and then it is told. -/
theorem on_protectOne_of_not_mem (hmem : finalizer ∉ configMap.metadata.finalizerList)
    {value : ConfigMap} {afterwards : Store}
    (hupdate : ((Store.client scheme).updateObject (.known ConfigMap.kind)
      (protectedOf configMap) {}).on store = (.ok value, afterwards)) (told : List String) :
    ∃ told', (protectOne (Store.client scheme) configMap).on ⟨store, told⟩ =
      (.ok (), ⟨afterwards, told'⟩) := by
  have hadded : configMap.metadata.addFinalizer finalizer =
      (true, (protectedOf configMap).metadata) := by
    simp [protectedOf, ObjectMeta.addFinalizer, ObjectMeta.hasFinalizer, hmem]
  refine ⟨told ++ ["protected configmap " ++ configMap.metadata.nameAny], ?_⟩
  rw [protectOne, hadded]
  exact Attempt.on_bind_eq_ok.2
    ⟨(), ⟨afterwards, told⟩, Pass.on_discard_doing hupdate told, Pass.on_tell _ _⟩

theorem finalizerList_protectedOf (configMap : ConfigMap) :
    (protectedOf configMap).metadata.finalizerList =
      (FinalizerCall.add finalizer).result configMap.metadata.finalizerList :=
  (FinalizerCall.add finalizer).edit_finalizerList configMap.metadata

theorem mem_finalizerList_protectedOf (configMap : ConfigMap) :
    finalizer ∈ (protectedOf configMap).metadata.finalizerList := by
  rw [finalizerList_protectedOf, ← List.count_pos_iff, FinalizerCall.count_result_add]
  exact lt_max_of_lt_left Nat.one_pos

/-- What is received with the finalizer keeps the others, and has it once unless it was repeated. -/
theorem protects_of_received
    (hbefore : scheme.fromDynamic (.known ConfigMap.kind) before = .ok configMap)
    (hafter : scheme.fromDynamic (.known ConfigMap.kind) after = .ok (protectedOf configMap))
    (hplace : ObjectRef.ofObject after = ObjectRef.ofObject before)
    (hspared : finalizer ∈ before.metadata.finalizerList → after = before) :
    Protects scheme before after where
  received := ⟨configMap, hbefore, hafter⟩
  place := hplace
  once := by
    rw [← finalizerList_of_received hbefore, ← finalizerList_of_received hafter,
      finalizerList_protectedOf, FinalizerCall.count_result_add]
  others := by
    rw [← finalizerList_of_received hbefore, ← finalizerList_of_received hafter,
      finalizerList_protectedOf]
    exact FinalizerCall.filter_result _ (by simp [FinalizerCall.name])
  spared := hspared

/-- A config map that lacks the finalizer is sent with it, and received as it was sent. -/
theorem exists_sent
    (hregistered : scheme.registered (.known ConfigMap.kind) = some ConfigMap.kind.gvk)
    (hreceived : scheme.fromDynamic (.known ConfigMap.kind) before = .ok configMap)
    (hmem : finalizer ∉ configMap.metadata.finalizerList) :
    ∃ dynamic, scheme.toDynamic (.known ConfigMap.kind) (protectedOf configMap) = .ok dynamic ∧
      scheme.fromDynamic (.known ConfigMap.kind) dynamic = .ok (protectedOf configMap) ∧
      ObjectRef.ofObject dynamic = ObjectRef.ofObject before := by
  have hsettled : ObjectMeta.decode? configMap.metadata.toJson = some configMap.metadata :=
    Scheme.settled_of_fromDynamic hreceived
  have hfinalizers := ObjectMeta.settled_withFinalizers hsettled
    (configMap.metadata.finalizerList ++ [finalizer])
  obtain ⟨_, -, -, hread⟩ := Scheme.fromDynamic_eq_ok_iff.1 hreceived
  have hback := KindObject.decode?_withMetadata hread (by decide) hfinalizers
  rw [protectedOf_of_not_mem hmem]
  obtain ⟨dynamic, hto, htypes, -, hwritten, hplace⟩ :=
    @Scheme.exists_sent scheme ConfigMap.kind before configMap
      { configMap with
        metadata := { configMap.metadata with
          finalizers := some (configMap.metadata.finalizerList ++ [finalizer]) } }
      hregistered hreceived hfinalizers rfl rfl
  refine ⟨dynamic, hto, Scheme.fromDynamic_eq_ok hregistered htypes ?_, hplace⟩
  rw [hwritten]
  exact hback

/-- A step goes through for every config map. -/
theorem steps (hregistered : scheme.registered (.known ConfigMap.kind) = some ConfigMap.kind.gvk) :
    Store.Steps scheme (.known ConfigMap.kind) (protectOne (Store.client scheme)) (fun _ => True)
      (Protects scheme) := by
  intro object configMap hreceived _ store reference told hreference hstored
  have hlist := finalizerList_of_received hreceived
  by_cases hmem : finalizer ∈ configMap.metadata.finalizerList
  · refine ⟨object, store, told, on_protectOne_of_mem hmem _, ?_, Store.puts_self hstored⟩
    apply protects_of_received hreceived _ rfl fun _ => rfl
    rw [protectedOf_of_mem hmem]
    exact hreceived
  · obtain ⟨dynamic, hto, hback, hplace⟩ := exists_sent hregistered hreceived hmem
    have hupdate : (Store.update dynamic {}).on store =
        (.ok dynamic, ⟨store.entries.insert reference dynamic⟩) :=
      Store.update_ok_iff.2
        ⟨⟨rfl, rfl⟩, reference, hplace.trans hreference, object, hstored, rfl, rfl⟩
    obtain ⟨told', hstep⟩ :=
      on_protectOne_of_not_mem hmem (Store.on_exchange hto hupdate hback) told
    refine ⟨dynamic, _, told', hstep, ?_, Store.puts_insert store reference dynamic⟩
    apply protects_of_received hreceived hback hplace
    rw [← hlist]
    exact fun hset => absurd hset hmem

/-! The pass on a store. -/

/-- The config maps of a namespace, or all of them, that have the label. -/
def Labelled (namespaceName : String) : Object → Prop :=
  Store.Wanted ⟨"", "v1", "ConfigMap"⟩
    { namespaceName := some namespaceName, labelSelector := some protectLabel }
    [.present protectLabel]

theorem protect_eq_listing (scheme : Scheme) (namespaceName : String) :
    protect (Store.client scheme) namespaceName =
      Store.listing scheme (.known ConfigMap.kind)
        { namespaceName := some namespaceName, labelSelector := some protectLabel }
        (protectOne (Store.client scheme)) := rfl

theorem parse_protectLabel : Label.parse protectLabel = .ok [.present protectLabel] := by
  decide +kernel

/-- A pass sends each config map with the label at most once. -/
theorem settles (hregistered : scheme.registered (.known ConfigMap.kind) = some ConfigMap.kind.gvk)
    (hkeyed : store.Keyed) (namespaceName : String)
    (hreceived : ∀ object ∈ store.objects, Labelled namespaceName object →
      ∃ configMap, scheme.fromDynamic (.known ConfigMap.kind) object = .ok configMap)
    (told : List String) :
    ∃ after told',
      (protect (Store.client scheme) namespaceName).on ⟨store, told⟩ = (.ok (), ⟨after, told'⟩) ∧
      Store.Alters (Labelled namespaceName) (Protects scheme) store after ∧
      ∀ told, (protect (Store.client scheme) namespaceName).on ⟨after, told⟩ =
        (.ok (), ⟨after, told⟩) := by
  have hgvk := Scheme.gvk_eq_ok hregistered
  have hall : ∀ object ∈ store.objects, Labelled namespaceName object →
      ∃ configMap, scheme.fromDynamic (.known ConfigMap.kind) object = .ok configMap ∧ True := by
    intro object hobject hlabelled
    obtain ⟨configMap, hconfigMap⟩ := hreceived object hobject hlabelled
    exact ⟨configMap, hconfigMap, trivial⟩
  obtain ⟨after, told', hfirst, hprotects⟩ :
      ∃ after told', (protect (Store.client scheme) namespaceName).on ⟨store, told⟩ =
        (.ok (), ⟨after, told'⟩) ∧
      Store.Alters (Labelled namespaceName) (Protects scheme) store after := by
    rw [protect_eq_listing]
    refine (steps hregistered).on_listing hkeyed hgvk rfl ?_ hall told
    exact parse_protectLabel
  refine ⟨after, told', hfirst, hprotects, fun told => ?_⟩
  have hafter := hprotects.keyed hkeyed fun object result hprotect => hprotect.place
  have hidle : ∀ object ∈ after.objects, Labelled namespaceName object →
      ∃ configMap, scheme.fromDynamic (.known ConfigMap.kind) object = .ok configMap ∧
        (protectOne (Store.client scheme) configMap).on ⟨after, told⟩ =
          (.ok (), ⟨after, told⟩) := by
    intro object hobject hlabelled
    obtain ⟨reference, hreference⟩ := Store.mem_objects_iff.1 hobject
    obtain ⟨before, -, hprotect⟩ := hprotects.exists_before hreference hlabelled
    obtain ⟨configMap, -, hagain⟩ := hprotect.received
    exact ⟨protectedOf configMap, hagain,
      on_protectOne_of_mem (mem_finalizerList_protectedOf configMap) _⟩
  rw [protect_eq_listing]
  refine Store.on_listing_of_idle hafter hgvk rfl ?_ hidle
  exact parse_protectLabel

end Reconciler.ConfigMaps
