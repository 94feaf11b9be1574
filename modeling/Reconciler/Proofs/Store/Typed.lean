import Reconciler.Client.Typed
import Reconciler.Proofs.Object.Scheme
import Reconciler.Proofs.Store.Listing
/-!
Objects of a kind in a store.  An object is kept as an object of any kind; it is received as
it was sent, with its times as they are written.
-/
namespace Reconciler.Store

variable {scheme : Scheme} {type : ObjectType} {gvk : GroupVersionKind} {store : Store}
  {params : PostParams} {dynamic : Object} {reference : ObjectRef}

@[simp] theorem on_ofScheme {α : Type} (result : Except SchemeError α) (store : Store) :
    (Action.ofScheme result).on store = (result.mapError .scheme, store) := rfl

theorem on_received {value : type.Value} (hvalue : scheme.fromDynamic type dynamic = .ok value)
    (store : Store) : ((client scheme).received type dynamic).on store = (.ok value, store) := by
  have hscheme : (client scheme).scheme = scheme := rfl
  rw [Client.received, on_ofScheme, hscheme, hvalue]
  rfl

/-- An object is created under a reference that the store lacks. -/
theorem on_create_of_absent (hdry : params.dryRun = false)
    (hreference : ObjectRef.ofObject dynamic = .ok reference)
    (habsent : store.entries.get? reference = none) :
    (create dynamic params).on store =
      (.ok dynamic, ⟨store.entries.insert reference dynamic⟩) :=
  create_ok_iff.2 ⟨hdry, reference, hreference, habsent, rfl, rfl⟩

/-- No object is created under a reference that the store has. -/
theorem on_create_of_present {stored : Object} (hdry : params.dryRun = false)
    (hreference : ObjectRef.ofObject dynamic = .ok reference)
    (hstored : store.entries.get? reference = some stored) :
    (create dynamic params).on store =
      (.error (.alreadyExists reference.groupKind reference.key), store) := by
  have hcheck := validateCreate_eq_ok_iff.2 hdry
  have hfound := reference_eq_ok_iff.2 hreference
  simp [create, addressing, Attempt.on_bind, hcheck, hfound, SortedMap.contains, hstored]

/-- Objects that all can be received are received in a list. -/
theorem on_mapM_received {objects : List Object}
    (hall : ∀ object ∈ objects, ∃ value, scheme.fromDynamic type object = .ok value)
    (store : Store) :
    ∃ values, (objects.mapM ((client scheme).received type)).on store = (.ok values, store) ∧
      ∀ object ∈ objects, ∀ value, scheme.fromDynamic type object = .ok value →
        value ∈ values := by
  induction objects with
  | nil => exact ⟨[], rfl, by simp⟩
  | cons object rest ih =>
      obtain ⟨⟨first, hfirst⟩, hrest⟩ := List.forall_mem_cons.1 hall
      obtain ⟨values, hvalues, hmem⟩ := ih hrest
      refine ⟨first :: values, ?_, ?_⟩
      · rw [List.mapM_cons, Attempt.on_bind, on_received hfirst]
        simp only
        rw [Attempt.on_bind, hvalues]
        rfl
      · rw [List.forall_mem_cons]
        constructor
        · intro value hvalue
          obtain rfl : first = value := Except.ok.inj (hfirst.symm.trans hvalue)
          exact List.mem_cons_self
        · intro other hother value hvalue
          exact List.mem_cons_of_mem _ (hmem other hother value hvalue)

/-- The filter of the options that ask for the namespace of an object. -/
def namespaceFilter (metadata : ObjectMeta) : Filter :=
  ⟨metadata.namespaceName.filter fun name => !name.isEmpty, []⟩

theorem admits_namespaceFilter {metadata : ObjectMeta}
    (hnamespace : dynamic.metadata.namespaceName = metadata.namespaceName) :
    (namespaceFilter metadata).admits dynamic = true := by
  have hlabels : Label.Selector.matches [] dynamic.metadata.labelMap = true := rfl
  rw [Filter.admits, namespaceFilter, hlabels, hnamespace, Bool.and_true, ObjectKey.filter_place]
  split <;> simp

/-- An object of a type is created as the object of any kind that it is turned into. -/
theorem on_createObject {object : type.Value} (hto : scheme.toDynamic type object = .ok dynamic)
    (store : Store) :
    ((client scheme).createObject type object params).on store =
      (create dynamic params >>= (client scheme).received type).on store := by
  have hscheme : (client scheme).scheme = scheme := rfl
  have hsent : ((client scheme).sent type object).on store = (.ok dynamic, store) := by
    rw [Client.sent, on_ofScheme, hscheme, hto]
    rfl
  rw [Client.createObject, Attempt.on_bind, hsent]
  rfl

theorem on_createObject_of_absent {object kept : type.Value} (hdry : params.dryRun = false)
    (hto : scheme.toDynamic type object = .ok dynamic)
    (hfrom : scheme.fromDynamic type dynamic = .ok kept)
    (hreference : ObjectRef.ofObject dynamic = .ok reference)
    (habsent : store.entries.get? reference = none) :
    ((client scheme).createObject type object params).on store =
      (.ok kept, ⟨store.entries.insert reference dynamic⟩) := by
  rw [on_createObject hto, Attempt.on_bind, on_create_of_absent hdry hreference habsent]
  exact on_received hfrom _

theorem on_createObject_of_present {object : type.Value} {stored : Object}
    (hdry : params.dryRun = false) (hto : scheme.toDynamic type object = .ok dynamic)
    (hreference : ObjectRef.ofObject dynamic = .ok reference)
    (hstored : store.entries.get? reference = some stored) :
    ((client scheme).createObject type object params).on store =
      (.error (.alreadyExists reference.groupKind reference.key), store) := by
  rw [on_createObject hto, Attempt.on_bind, on_create_of_present hdry hreference hstored]

theorem on_getObject {key : ObjectKey} {kept : type.Value} (hgvk : scheme.gvk type = .ok gvk)
    (hfrom : scheme.fromDynamic type dynamic = .ok kept)
    (hstored : store.entries.get? ⟨gvk.groupKind, key⟩ = some dynamic) :
    ((client scheme).getObject type key).on store = (.ok kept, store) := by
  have hscheme : (client scheme).scheme = scheme := rfl
  have hget : ((client scheme).get gvk key).on store = (.ok dynamic, store) := by
    refine (on_get store gvk key).trans ?_
    rw [hstored]
  rw [Client.getObject, Attempt.on_bind, on_ofScheme, hscheme, hgvk]
  simp only [Except.mapError]
  rw [Attempt.on_bind, hget]
  exact on_received hfrom store

theorem on_listObjects {options : ListOptions} {shown : List Object}
    (hgvk : scheme.gvk type = .ok gvk) (hlist : (list gvk options).on store = (.ok shown, store)) :
    ((client scheme).listObjects type options).on store =
      (shown.mapM ((client scheme).received type)).on store := by
  have hscheme : (client scheme).scheme = scheme := rfl
  have hshown : ((client scheme).list gvk options).on store = (.ok shown, store) := hlist
  rw [Client.listObjects, Attempt.on_bind, on_ofScheme, hscheme, hgvk]
  simp only [Except.mapError]
  rw [Attempt.on_bind, hshown]

/-- A new object is listed among the objects of its namespace that were listed before. -/
theorem exists_listed_of_insert {metadata : ObjectMeta} (store : Store)
    (hkind : reference.groupKind = gvk.groupKind)
    (hnamespace : dynamic.metadata.namespaceName = metadata.namespaceName) :
    ∃ shown listed,
      (list gvk { namespaceName := metadata.namespaceName }).on store = (.ok shown, store) ∧
      (list gvk { namespaceName := metadata.namespaceName }).on
          ⟨store.entries.insert reference dynamic⟩ =
        (.ok listed, ⟨store.entries.insert reference dynamic⟩) ∧
      dynamic ∈ listed ∧ ∀ other ∈ listed, other = dynamic ∨ other ∈ shown := by
  have hselects : selects gvk (namespaceFilter metadata) reference dynamic = true := by
    rw [selects, hkind, admits_namespaceFilter hnamespace]
    simp
  refine ⟨_, _, on_list _ _ _, on_list _ _ _, ?_, ?_⟩
  · rw [SortedMap.mem_values_iff]
    refine ⟨reference, SortedMap.mem_entries_filter_iff.2 ⟨?_, hselects⟩⟩
    rw [← SortedMap.get?_eq_some_iff, SortedMap.get?_insert, if_pos Std.ReflCmp.compare_self]
  · intro other hother
    obtain ⟨key, hentry⟩ := SortedMap.mem_values_iff.1 hother
    obtain ⟨hmem, hselected⟩ := SortedMap.mem_entries_filter_iff.1 hentry
    rcases Entries.mem_insert hmem with hsame | hbefore
    · exact .inl (congrArg Prod.snd hsame)
    · refine .inr (SortedMap.mem_values_iff.2 ⟨key, ?_⟩)
      exact SortedMap.mem_entries_filter_iff.2 ⟨hbefore, hselected⟩

/-- What a store that lacks an object does with it: it creates the object, gives it back with its
times as they are kept, and creates it no second time. -/
structure Keeps (scheme : Scheme) (gvk : GroupVersionKind) (type : ObjectType)
    (object kept : type.Value) (reference : ObjectRef) (store after : Store) : Prop where
  creates : ∀ params : PostParams, params.dryRun = false →
    ((client scheme).createObject type object params).on store = (.ok kept, after)
  gets : ((client scheme).getObject type (.ofMeta (type.metadata object))).on after =
    (.ok kept, after)
  /-- It is among the objects of its namespace, if all that were there are of the type. -/
  lists : ∃ shown,
    (list gvk { namespaceName := (type.metadata object).namespaceName }).on store =
      (.ok shown, store) ∧
    ((∀ other ∈ shown, ∃ value, scheme.fromDynamic type other = .ok value) →
      ∃ values, ((client scheme).listObjects type
          { namespaceName := (type.metadata object).namespaceName }).on after =
        (.ok values, after) ∧ kept ∈ values)
  refuses : ∀ params : PostParams, params.dryRun = false →
    ((client scheme).createObject type object params).on after =
      (.error (.alreadyExists reference.groupKind reference.key), after)

/-- An object of any kind is kept as it is, so that what it is received as is what is kept. -/
theorem keeps_insert {object kept : type.Value} (hgvk : scheme.gvk type = .ok gvk)
    (hto : scheme.toDynamic type object = .ok dynamic)
    (hfrom : scheme.fromDynamic type dynamic = .ok kept)
    (hreference : ObjectRef.ofObject dynamic =
      .ok ⟨gvk.groupKind, .ofMeta (type.metadata object)⟩)
    (hnamespace : dynamic.metadata.namespaceName = (type.metadata object).namespaceName)
    (habsent : store.entries.get? ⟨gvk.groupKind, .ofMeta (type.metadata object)⟩ = none) :
    Keeps scheme gvk type object kept ⟨gvk.groupKind, .ofMeta (type.metadata object)⟩ store
      ⟨store.entries.insert ⟨gvk.groupKind, .ofMeta (type.metadata object)⟩ dynamic⟩ := by
  have hstored : (store.entries.insert ⟨gvk.groupKind, .ofMeta (type.metadata object)⟩
      dynamic).get? ⟨gvk.groupKind, .ofMeta (type.metadata object)⟩ = some dynamic := by
    rw [SortedMap.get?_insert, if_pos Std.ReflCmp.compare_self]
  have hkind : ObjectRef.groupKind ⟨gvk.groupKind, .ofMeta (type.metadata object)⟩ =
      gvk.groupKind := rfl
  refine ⟨?_, on_getObject hgvk hfrom hstored, ?_, ?_⟩
  · intro params hdry
    exact on_createObject_of_absent hdry hto hfrom hreference habsent
  · obtain ⟨shown, listed, hshown, hlisted, hmem, hothers⟩ :=
      exists_listed_of_insert store hkind hnamespace
    refine ⟨shown, hshown, fun hall => ?_⟩
    have hreceived : ∀ other ∈ listed, ∃ value, scheme.fromDynamic type other = .ok value := by
      intro other hother
      rcases hothers other hother with rfl | hbefore
      · exact ⟨kept, hfrom⟩
      · exact hall other hbefore
    obtain ⟨values, hvalues, hkept⟩ := on_mapM_received hreceived _
    exact ⟨values, (on_listObjects hgvk hlisted).trans hvalues, hkept dynamic hmem kept hfrom⟩
  · intro params hdry
    exact on_createObject_of_present hdry hto hreference hstored

/-- An object of a kind that was read from JSON is turned into an object of any kind and back, and
kept by every store that lacks it, with its times as they are written. -/
theorem createObject_roundTrips {kind : ObjectKind} {json : Json} {object : KindObject kind}
    (hregistered : scheme.registered (.known kind) = some kind.gvk)
    (hread : KindObject.decode? json = some object) (hcivil : ∀ t ∈ object.times, t.Civil) :
    (∃ dynamic, scheme.toDynamic (.known kind) object = .ok dynamic ∧
      scheme.fromDynamic (.known kind) dynamic = .ok object.truncate) ∧
    ∃ reference, ObjectRef.ofTyped scheme (.known kind) object = .ok reference ∧
      ∀ store : Store, store.entries.get? reference = none →
        ∃ after,
          Keeps scheme kind.gvk (.known kind) object object.truncate reference store after := by
  have hmetaCivil : ∀ t ∈ object.metadata.times, t.Civil := fun t ht =>
    hcivil t (List.mem_append_left _ ht)
  obtain ⟨dynamic, hto, htypes, hmeta, hwritten⟩ :=
    Scheme.exists_toDynamic hregistered hread hmetaCivil
  have hback : KindObject.decode? dynamic.toJson = some object.truncate := by
    rw [hwritten]
    exact KindObject.roundTrips.decode_encode hread hcivil
  have hfrom := Scheme.fromDynamic_eq_ok hregistered htypes hback
  have hgvk := Scheme.gvk_eq_ok hregistered
  have hofTyped : ObjectRef.ofTyped scheme (.known kind) object =
      .ok ⟨kind.gvk.groupKind, .ofMeta object.metadata⟩ := by
    rw [ObjectRef.ofTyped, Scheme.gvkFor, hgvk]
    · rfl
    · simp
  have hofObject : ObjectRef.ofObject dynamic =
      .ok ⟨kind.gvk.groupKind, .ofMeta object.metadata⟩ := by
    rw [ObjectRef.ofObject, Scheme.gvk_of_types htypes, ObjectKey.ofObject, hmeta]
    rfl
  have hnamespace : dynamic.metadata.namespaceName = object.metadata.namespaceName := by
    rw [hmeta]
    rfl
  refine ⟨⟨dynamic, hto, hfrom⟩, _, hofTyped, fun store habsent => ?_⟩
  exact ⟨_, keeps_insert hgvk hto hfrom hofObject hnamespace habsent⟩

/-- A lease as it is sent, with times that are not kept in full. -/
def leaseJson : Json :=
  .obj [("apiVersion", .str "coordination.k8s.io/v1"), ("kind", .str "Lease"),
    ("metadata", .obj [("creationTimestamp", .str "2021-06-01T12:00:00.5Z"),
      ("name", .str "main"), ("namespace", .str "system")]),
    ("spec", .obj [("renewTime", .str "2021-06-01T12:00:00.0000005Z")])]

/-- The lease, with the fractions of a second that its times have. -/
def lease (created renewed : Fin 1000000000) : KindObject Lease.kind where
  metadata :=
    { creationTimestamp := some ⟨1622548800, created, by omega⟩
      name := some "main"
      namespaceName := some "system" }
  row := (some (none, none, none, none, some ⟨1622548800, renewed, by omega⟩, ()), ())

/-- A store without objects keeps a lease without the fractions that are not written. -/
theorem createObject_roundTrips_lease :
    ∃ reference after,
      ObjectRef.ofTyped .defaults (.known Lease.kind) (lease 500000000 500) = .ok reference ∧
      Keeps .defaults Lease.kind.gvk (.known Lease.kind) (lease 500000000 500) (lease 0 0)
        reference {} after := by
  have hregistered : Scheme.defaults.registered (.known Lease.kind) = some Lease.kind.gvk := by
    decide +kernel
  have hread : KindObject.decode? leaseJson = some (lease 500000000 500) := by
    decide +kernel
  have hcivil : ∀ t ∈ (lease 500000000 500).times, t.Civil := by
    decide +kernel
  have hkept : (lease 500000000 500).truncate = lease 0 0 := by
    decide +kernel
  obtain ⟨-, reference, hreference, hkeeps⟩ :=
    createObject_roundTrips hregistered hread hcivil
  obtain ⟨after, hafter⟩ := hkeeps {} rfl
  exact ⟨reference, after, hreference, hkept ▸ hafter⟩

end Reconciler.Store
