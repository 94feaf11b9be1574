import Reconciler.Proofs.Object.Reference
import Reconciler.Proofs.Store.Batch
import Reconciler.Proofs.Store.Views
/-!
Objects without a namespace, and how they are asked for.  An object is kept under a key without a
namespace if its own is unset, and also if it is empty; a list takes an empty namespace for none,
too.  A key that is asked for is looked up as it is, and with an empty namespace it is no object's.
-/
namespace Reconciler.Store

variable {scheme : Scheme} {log : Log} {store : Store} {reference : ObjectRef} {object : Object}

/-- A request asks for the kind, in any version, and the key of a reference. -/
structure AsksFor (request : GetRequest) (reference : ObjectRef) : Prop where
  kind : request.gvk.groupKind = reference.groupKind
  key : request.key = reference.key

theorem AsksFor.eq {request : GetRequest} (h : AsksFor request reference) :
    .ofRequest request = reference := by
  rw [ObjectRef.ofRequest, h.kind, h.key]

/-- An object is found under a reference, whichever way it is asked for and in whatever version. -/
structure Finds (scheme : Scheme) (store : Store) (reference : ObjectRef) (object : Object) :
    Prop where
  get : ∀ gvk, gvk.groupKind = reference.groupKind →
    ((client scheme).get gvk reference.key).on store = (.ok object, store)
  getMultiple : ∀ request, AsksFor request reference →
    ((client scheme).getMultiple [request]).on store = (.ok [object], store)
  /-- The set of the references to the object has that of every request for it. -/
  referenced : ∃ set, ObjectRefSet.ofObjects [object] = .ok set ∧
    ∀ request, AsksFor request reference → set.referencesRequest request = true

/-- Nothing is found under a reference, and no object of any type has it. -/
structure Misses (scheme : Scheme) (store : Store) (reference : ObjectRef) : Prop where
  get : ∀ gvk, gvk.groupKind = reference.groupKind →
    ((client scheme).get gvk reference.key).on store = (.error (missing reference), store)
  getMultiple : ∀ request, AsksFor request reference →
    ((client scheme).getMultiple [request]).on store =
      (.error (.object "getting" reference.key (missing reference)), store)
  unreferenced : ∀ (type : ObjectType) (objects : List type.Value) (set : ObjectRefSet) request,
    ObjectRefSet.ofTyped scheme type objects = .ok set →
      AsksFor request reference → set.referencesRequest request = false

theorem on_client_get (scheme : Scheme) (store : Store) {gvk : GroupVersionKind}
    (hkind : gvk.groupKind = reference.groupKind) :
    ((client scheme).get gvk reference.key).on store =
      (match store.entries.get? reference with
        | some object => .ok object
        | none => .error (missing reference), store) := by
  refine (on_get store gvk reference.key).trans ?_
  rw [hkind]
  rfl

/-- What is kept under its own reference is found there. -/
theorem finds_of_get? (scheme : Scheme) (hreference : ObjectRef.ofObject object = .ok reference)
    (hstored : store.entries.get? reference = some object) :
    Finds scheme store reference object := by
  constructor
  · intro gvk hkind
    rw [on_client_get scheme store hkind, hstored]
  · intro request hasks
    obtain rfl := hasks.eq
    have hget : (getRequested request).on store = (.ok object, store) := by
      rw [on_getRequested, hstored]
    have hruns : Runs getRequested store [request] [object] store := .cons hget .nil
    exact hruns.on_mapM "getting" GetRequest.key
  · have hset : ObjectRefSet.ofTyped scheme .dynamic [object] = .ok (.ofList [reference]) := by
      have hown : ObjectRef.ofTyped scheme .dynamic object = .ok reference := hreference
      rw [ObjectRefSet.ofTyped, List.mapM_cons, hown]
      rfl
    refine ⟨_, hset, fun request hasks => ?_⟩
    obtain rfl := hasks.eq
    apply (ObjectRefSet.contains_ofTyped_iff hset).2
    exact ⟨object, List.mem_singleton_self object, hreference⟩

theorem misses_of_get? (hstored : store.entries.get? reference = none)
    (hforeign : ∀ (type : ObjectType) (object : type.Value),
      ObjectRef.ofTyped scheme type object ≠ .ok reference) :
    Misses scheme store reference := by
  constructor
  · intro gvk hkind
    rw [on_client_get scheme store hkind, hstored]
  · intro request hasks
    obtain rfl := hasks.eq
    have hfails : (getRequested request).on store =
        (.error (missing (.ofRequest request)), store) := by
      rw [on_getRequested, hstored]
    have hstops : StopsAt getRequested store [request] [] [] store request _ store :=
      ⟨⟨[], rfl⟩, .nil, hfails⟩
    exact hstops.on_mapM "getting" GetRequest.key
  · intro type objects set request hset hasks
    obtain rfl := hasks.eq
    rw [ObjectRefSet.referencesRequest, Bool.eq_false_iff]
    intro hcontains
    obtain ⟨object, -, hobject⟩ := (ObjectRefSet.contains_ofTyped_iff hset).1 hcontains
    exact hforeign type object hobject

/-- No object has a reference with the empty namespace. -/
theorem ofTyped_ne_of_empty (hplace : reference.key.namespaceName = some "") (type : ObjectType)
    (object : type.Value) : ObjectRef.ofTyped scheme type object ≠ .ok reference := by
  intro hreference
  obtain ⟨gvk, -, rfl⟩ := Except.map_eq_ok_iff.1 hreference
  exact ObjectKey.namespaceName_ofMeta_ne (type.metadata object) hplace

/-- Whatever was done to a store: it keeps nothing under such a reference. -/
theorem Follows.misses (h : Follows log store) (scheme : Scheme)
    (hplace : reference.key.namespaceName = some "") : Misses scheme store reference := by
  have hforeign : ∀ (type : ObjectType) (object : type.Value),
      ObjectRef.ofTyped scheme type object ≠ .ok reference := ofTyped_ne_of_empty hplace
  apply misses_of_get? _ hforeign
  rw [Option.eq_none_iff_forall_ne_some]
  intro object hstored
  exact hforeign .dynamic object (h.keyed reference object hstored)

/-- A list of an empty namespace is a list of all namespaces. -/
theorem on_list_everywhere (gvk : GroupVersionKind) {place : Option String}
    (hplace : place.getD "" = "") (store : Store) :
    (list gvk { namespaceName := place }).on store =
      (.ok (store.groupKindObjects gvk.groupKind), store) := by
  have hoptions : ({ namespaceName := place } : ListOptions).namespaceName.getD "" = "" := hplace
  have hfilter : Filter.ofOptions {} = Filter.ofOptions { namespaceName := place } :=
    ofOptions_everywhere hoptions
  have hlist : list gvk { namespaceName := place } = list gvk {} := by
    rw [list, list, hfilter]
    rfl
  rw [hlist, on_list_default]

theorem mem_groupKindObjects_of_get? (hstored : store.entries.get? reference = some object) :
    object ∈ store.groupKindObjects reference.groupKind := by
  apply SortedMap.mem_values_iff.2
  refine ⟨reference, SortedMap.mem_entries_filter_iff.2 ⟨?_, ?_⟩⟩
  · exact SortedMap.get?_eq_some_iff.1 hstored
  · simp

/-- The key of an object whose namespace is unset or empty. -/
theorem ofMeta_eq_of_empty {metadata : ObjectMeta} (hplace : metadata.namespaceName.getD "" = "") :
    ObjectKey.ofMeta metadata = ⟨none, metadata.name.getD ""⟩ := by
  rw [ObjectKey.ofMeta, ObjectKey.filter_place, if_pos hplace]

/-- A store that an object was created in after any history still agrees with a log. -/
theorem follows_create {calls : List Call} {params : PostParams} {answer : Object} {after : Store}
    (hcreate : ((client scheme).create object params).on
      (history (client scheme) .empty calls).2 = (.ok answer, after)) :
    ∃ log, Follows log after := by
  have hperform : ((Call.create object params).perform (client scheme)).on
      (history (client scheme) .empty calls).2 = (.ok (.object answer), after) :=
    Attempt.on_map_eq_ok.2 ⟨answer, hcreate, rfl⟩
  have hafter : (record (client scheme) (history (client scheme) .empty calls)
      (.create object params)).2 = after := congrArg Prod.snd hperform
  have hrecord : Follows (record (client scheme) (history (client scheme) .empty calls)
      (.create object params)).1 _ := follows_record _ (follows_history scheme calls)
  rw [hafter] at hrecord
  exact ⟨_, hrecord⟩

/-- An object without a namespace, or with the empty one, that was created after any history is
found under the key without a namespace, and is listed if no namespace is asked for or the empty
one.  A key with the empty namespace finds neither it nor any other object. -/
theorem created_found_without_namespace (scheme : Scheme) (calls : List Call)
    {params : PostParams} {gvk : GroupVersionKind} {answer : Object} {after : Store}
    (hgvk : object.gvk = .ok gvk) (hplace : object.metadata.namespaceName.getD "" = "")
    (hcreate : ((client scheme).create object params).on
      (history (client scheme) .empty calls).2 = (.ok answer, after)) :
    Finds scheme after ⟨gvk.groupKind, ⟨none, object.metadata.name.getD ""⟩⟩ object ∧
      (∀ place, place.getD "" = "" → ∃ listed,
        ((client scheme).list gvk { namespaceName := place }).on after = (.ok listed, after) ∧
          object ∈ listed) ∧
      ∀ groupKind name, Misses scheme after ⟨groupKind, ⟨some "", name⟩⟩ := by
  have hreference : ObjectRef.ofObject object =
      .ok ⟨gvk.groupKind, ⟨none, object.metadata.name.getD ""⟩⟩ := by
    rw [ObjectRef.ofObject, hgvk, ObjectKey.ofObject, ofMeta_eq_of_empty hplace]
    rfl
  have hstored : after.entries.get? ⟨gvk.groupKind, ⟨none, object.metadata.name.getD ""⟩⟩ =
      some object := by
    obtain ⟨-, found, hfound, -, -, rfl⟩ := create_ok_iff.1 hcreate
    obtain rfl := Except.ok.inj (hfound.symm.trans hreference)
    rw [get?_insert, if_pos rfl]
  obtain ⟨log, hfollows⟩ := follows_create hcreate
  refine ⟨finds_of_get? scheme hreference hstored, ?_, ?_⟩
  · intro place hempty
    exact ⟨_, on_list_everywhere gvk hempty after, mem_groupKindObjects_of_get? hstored⟩
  · intro groupKind name
    exact hfollows.misses scheme rfl

/-- A config map with a namespace or without. -/
def placed (place : Option String) : Object :=
  { types := some ⟨"v1", "ConfigMap"⟩, metadata := { name := some "a", namespaceName := place } }

/-- A config map with the empty namespace is found after another one was created. -/
theorem created_found_without_namespace_placed :
    ∃ answer after,
      ((client .defaults).create (placed (some "")) {}).on
        (history (client .defaults) .empty [.create (placed (some "b")) {}]).2 =
          (.ok answer, after) ∧
      Finds .defaults after ⟨⟨"", "ConfigMap"⟩, ⟨none, "a"⟩⟩ (placed (some "")) := by
  have hcreate : ((client .defaults).create (placed (some "")) {}).on
      (history (client .defaults) .empty [.create (placed (some "b")) {}]).2 =
        (.ok (placed (some "")),
          ⟨.ofList [(⟨⟨"", "ConfigMap"⟩, ⟨none, "a"⟩⟩, placed (some "")),
            (⟨⟨"", "ConfigMap"⟩, ⟨some "b", "a"⟩⟩, placed (some "b"))]⟩) := by
    decide +kernel
  have hgvk : (placed (some "")).gvk = .ok ⟨"", "v1", "ConfigMap"⟩ := by decide +kernel
  obtain ⟨hfinds, -, -⟩ := created_found_without_namespace .defaults _ hgvk rfl hcreate
  exact ⟨_, _, hcreate, hfinds⟩

/-- A config map without a namespace is not found under its name in the empty namespace. -/
theorem created_missed_in_empty_namespace :
    ((client .defaults).create (placed none) {}).on .empty =
      (.ok (placed none), ⟨.ofList [(⟨⟨"", "ConfigMap"⟩, ⟨none, "a"⟩⟩, placed none)]⟩) ∧
    (((client .defaults).get ⟨"", "v1", "ConfigMap"⟩ ⟨some "", "a"⟩).on
      ⟨.ofList [(⟨⟨"", "ConfigMap"⟩, ⟨none, "a"⟩⟩, placed none)]⟩).1 =
        .error (.notFound ⟨"", "ConfigMap"⟩ ⟨some "", "a"⟩) ∧
    (ObjectRefSet.ofObjects [placed none]).map
      (·.referencesRequest (.dynamic ⟨"", "v1", "ConfigMap"⟩ ⟨some "", "a"⟩)) = .ok false ∧
    (((client .defaults).list ⟨"", "v1", "ConfigMap"⟩ { namespaceName := some "" }).on
      ⟨.ofList [(⟨⟨"", "ConfigMap"⟩, ⟨none, "a"⟩⟩, placed none)]⟩).1 = .ok [placed none] := by
  decide +kernel

end Reconciler.Store
