import Reconciler.Proofs.Client.Batch
import Reconciler.Proofs.Store.Typed
/-!
Batches on a store.  A batch of creations adds its objects one by one, a batch of deletions takes
them out one by one, and each leaves what it did before the first object for which it fails.  What a
batch added can be read, cannot be added again, and can be taken out again.
-/
namespace Reconciler.Store

variable {store after last : Store} {objects added removed : List Object} {object : Object}
  {found : ObjectRef}

/-- The objects are under different references. -/
def Distinct (objects : List Object) : Prop :=
  objects.Pairwise fun first second => ObjectRef.ofObject first ≠ ObjectRef.ofObject second

/-- Objects were added to a store, each under a reference that neither the store nor an object
before it had. -/
structure Adds (store : Store) (added : List Object) (after : Store) : Prop where
  get?_iff : ∀ reference object, after.entries.get? reference = some object ↔
    store.entries.get? reference = some object ∨
      object ∈ added ∧ ObjectRef.ofObject object = .ok reference
  fresh : ∀ object ∈ added, ∃ reference, ObjectRef.ofObject object = .ok reference ∧
    store.entries.get? reference = none
  distinct : Distinct added

/-- The objects under the references of some objects were taken out of a store, one for each. -/
structure Removes (store : Store) (removed : List Object) (after : Store) : Prop where
  get?_iff : ∀ reference object, after.entries.get? reference = some object ↔
    store.entries.get? reference = some object ∧
      ∀ gone ∈ removed, ObjectRef.ofObject gone ≠ .ok reference
  present : ∀ gone ∈ removed, ∃ reference, ObjectRef.ofObject gone = .ok reference ∧
    (store.entries.get? reference).isSome
  distinct : Distinct removed

theorem Distinct.cons (hfound : ObjectRef.ofObject object = .ok found)
    (hothers : ∀ other ∈ objects, ∃ reference, ObjectRef.ofObject other = .ok reference ∧
      reference ≠ found)
    (h : Distinct objects) : Distinct (object :: objects) := by
  refine List.pairwise_cons.2 ⟨?_, h⟩
  intro other hother hsame
  obtain ⟨reference, hreference, hne⟩ := hothers other hother
  rw [hfound, hreference] at hsame
  exact hne (Except.ok.inj hsame).symm

theorem get?_insert (reference : ObjectRef) :
    (store.entries.insert found object).get? reference =
      if reference = found then some object else store.entries.get? reference := by
  simp [SortedMap.get?_insert]

theorem get?_erase (reference : ObjectRef) :
    (store.entries.erase found).get? reference =
      if reference = found then none else store.entries.get? reference := by
  simp [SortedMap.get?_erase]

/-- Under a reference that was free there is the new object, and nothing else is new. -/
theorem get?_insert_eq_some_iff (habsent : store.entries.get? found = none) {reference : ObjectRef}
    {other : Object} :
    (store.entries.insert found object).get? reference = some other ↔
      store.entries.get? reference = some other ∨ reference = found ∧ other = object := by
  rw [get?_insert]
  by_cases hsame : reference = found
  · simp [hsame, habsent, eq_comm]
  · simp [hsame]

theorem get?_insert_eq_none_iff (reference : ObjectRef) :
    (store.entries.insert found object).get? reference = none ↔
      reference ≠ found ∧ store.entries.get? reference = none := by
  rw [get?_insert]
  by_cases hsame : reference = found <;> simp [hsame]

theorem isSome_get?_erase_iff (reference : ObjectRef) :
    ((store.entries.erase found).get? reference).isSome ↔
      reference ≠ found ∧ (store.entries.get? reference).isSome := by
  rw [get?_erase]
  by_cases hsame : reference = found <;> simp [hsame]

theorem Adds.nil (store : Store) : Adds store [] store where
  get?_iff reference object := by simp
  fresh := by simp
  distinct := .nil

theorem Adds.cons (hfound : ObjectRef.ofObject object = .ok found)
    (habsent : store.entries.get? found = none)
    (h : Adds ⟨store.entries.insert found object⟩ added after) :
    Adds store (object :: added) after := by
  have hfresh : ∀ other ∈ added, ∃ reference, ObjectRef.ofObject other = .ok reference ∧
      reference ≠ found ∧ store.entries.get? reference = none := by
    intro other hother
    obtain ⟨reference, hreference, hnone⟩ := h.fresh other hother
    exact ⟨reference, hreference, (get?_insert_eq_none_iff reference).1 hnone⟩
  constructor
  · intro reference other
    rw [h.get?_iff, get?_insert_eq_some_iff habsent, List.mem_cons]
    constructor
    · rintro ((hstored | ⟨rfl, rfl⟩) | ⟨hother, hreference⟩)
      · exact .inl hstored
      · exact .inr ⟨.inl rfl, hfound⟩
      · exact .inr ⟨.inr hother, hreference⟩
    · rintro (hstored | ⟨rfl | hother, hreference⟩)
      · exact .inl (.inl hstored)
      · exact .inl (.inr ⟨Except.ok.inj (hreference.symm.trans hfound), rfl⟩)
      · exact .inr ⟨hother, hreference⟩
  · rw [List.forall_mem_cons]
    constructor
    · exact ⟨found, hfound, habsent⟩
    · intro other hother
      obtain ⟨reference, hreference, -, hnone⟩ := hfresh other hother
      exact ⟨reference, hreference, hnone⟩
  · apply h.distinct.cons hfound
    intro other hother
    obtain ⟨reference, hreference, hne, -⟩ := hfresh other hother
    exact ⟨reference, hreference, hne⟩

theorem Removes.nil (store : Store) : Removes store [] store where
  get?_iff reference object := by simp
  present := by simp
  distinct := .nil

theorem Removes.cons (hfound : ObjectRef.ofObject object = .ok found)
    (hpresent : (store.entries.get? found).isSome)
    (h : Removes ⟨store.entries.erase found⟩ removed after) :
    Removes store (object :: removed) after := by
  have hothers : ∀ other ∈ removed, ∃ reference, ObjectRef.ofObject other = .ok reference ∧
      reference ≠ found ∧ (store.entries.get? reference).isSome := by
    intro other hother
    obtain ⟨reference, hreference, hsome⟩ := h.present other hother
    exact ⟨reference, hreference, (isSome_get?_erase_iff reference).1 hsome⟩
  constructor
  · intro reference other
    rw [h.get?_iff, get?_erase, List.forall_mem_cons, hfound]
    by_cases hsame : reference = found
    · subst hsame
      simp
    · rw [if_neg hsame]
      have hne : Except.ok found ≠ (Except.ok reference : Except SchemeError ObjectRef) :=
        fun heq => hsame (Except.ok.inj heq).symm
      simp only [ne_eq, hne, not_false_eq_true, true_and]
  · rw [List.forall_mem_cons]
    constructor
    · exact ⟨found, hfound, hpresent⟩
    · intro other hother
      obtain ⟨reference, hreference, -, hsome⟩ := hothers other hother
      exact ⟨reference, hreference, hsome⟩
  · apply h.distinct.cons hfound
    intro other hother
    obtain ⟨reference, hreference, hne, -⟩ := hothers other hother
    exact ⟨reference, hreference, hne⟩

/-- Taking out what was added leaves the store as it was. -/
theorem Removes.eq_of_adds (hadds : Adds store added after) (h : Removes after added last) :
    last = store := by
  have hentries : last.entries = store.entries := by
    apply SortedMap.ext_get?
    intro reference
    apply Option.ext
    intro object
    rw [h.get?_iff, hadds.get?_iff]
    constructor
    · rintro ⟨hstored | ⟨hobject, hreference⟩, hgone⟩
      · exact hstored
      · exact absurd hreference (hgone object hobject)
    · intro hstored
      refine ⟨.inl hstored, fun gone hmem hreference => ?_⟩
      obtain ⟨fresh, hfresh, hnone⟩ := hadds.fresh gone hmem
      obtain rfl : fresh = reference := Except.ok.inj (hfresh.symm.trans hreference)
      rw [hnone] at hstored
      cases hstored
  cases last
  cases store
  exact congrArg Store.mk hentries

/-- Every object that was added is there. -/
theorem Adds.stored (h : Adds store added after) :
    ∀ object ∈ added, ∃ reference, ObjectRef.ofObject object = .ok reference ∧
      after.entries.get? reference = some object := by
  intro object hobject
  obtain ⟨reference, hreference, -⟩ := h.fresh object hobject
  exact ⟨reference, hreference, (h.get?_iff reference object).2 (.inr ⟨hobject, hreference⟩)⟩

/-! What a run of each operation does. -/

theorem adds_of_runs {params : PostParams} {answers : List Object}
    (h : Runs (create · params) store objects answers after) :
    answers = objects ∧ Adds store objects after := by
  induction h with
  | nil => exact ⟨rfl, .nil _⟩
  | cons head _ ih =>
      obtain ⟨-, found, hfound, habsent, rfl, rfl⟩ := create_ok_iff.1 head
      obtain ⟨rfl, hadds⟩ := ih
      exact ⟨rfl, hadds.cons hfound habsent⟩

theorem removes_of_runs {params : DeleteParams} {units : List Unit}
    (h : Runs (delete · params) store objects units after) : Removes store objects after := by
  induction h with
  | nil => exact .nil _
  | cons head _ ih =>
      obtain ⟨-, found, hfound, hpresent, rfl⟩ := delete_ok_iff.1 head
      exact ih.cons hfound hpresent

/-- Different objects that are all there can be deleted one after another. -/
theorem exists_runs_delete
    (hpresent : ∀ object ∈ objects, ∃ reference, ObjectRef.ofObject object = .ok reference ∧
      (store.entries.get? reference).isSome)
    (hdistinct : Distinct objects) :
    ∃ units after, Runs (delete · {}) store objects units after := by
  induction objects generalizing store with
  | nil => exact ⟨[], store, .nil⟩
  | cons object rest ih =>
      rw [List.forall_mem_cons] at hpresent
      obtain ⟨⟨found, hfound, hsome⟩, hrest⟩ := hpresent
      obtain ⟨hothers, hdistinct⟩ := List.pairwise_cons.1 hdistinct
      have hdelete : (delete object {}).on store = (.ok (), ⟨store.entries.erase found⟩) :=
        delete_ok_iff.2 ⟨⟨rfl, rfl, rfl, rfl⟩, found, hfound, hsome, rfl⟩
      have hstill : ∀ other ∈ rest, ∃ reference, ObjectRef.ofObject other = .ok reference ∧
          ((⟨store.entries.erase found⟩ : Store).entries.get? reference).isSome := by
        intro other hother
        obtain ⟨reference, hreference, hsome⟩ := hrest other hother
        have hne : reference ≠ found := by
          intro hsame
          apply hothers other hother
          rw [hfound, hreference, hsame]
        exact ⟨reference, hreference, (isSome_get?_erase_iff reference).2 ⟨hne, hsome⟩⟩
      obtain ⟨units, after, hruns⟩ := ih hstill hdistinct
      exact ⟨() :: units, after, .cons hdelete hruns⟩

/-- The work of getting what a request asks for. -/
def getRequested (request : GetRequest) : Action Store Object :=
  get request.gvk request.key

theorem on_getRequested (request : GetRequest) (store : Store) :
    (getRequested request).on store =
      (match store.entries.get? (.ofRequest request) with
        | some object => .ok object
        | none => .error (missing (.ofRequest request)), store) :=
  on_get store request.gvk request.key

theorem eq_of_runs_get {requests : List GetRequest} {answers : List Object}
    (h : Runs getRequested store requests answers after) :
    after = store ∧
      requests.map (fun request => store.entries.get? (.ofRequest request)) =
        answers.map some := by
  induction h with
  | nil => exact ⟨rfl, rfl⟩
  | @cons before middle after request rest answer answers head _ ih =>
      rw [on_getRequested] at head
      obtain ⟨hanswer, rfl⟩ := Prod.mk.inj head
      obtain ⟨rfl, hanswers⟩ := ih
      refine ⟨rfl, ?_⟩
      rw [List.map_cons, List.map_cons, hanswers]
      cases hstored : after.entries.get? (.ofRequest request) with
      | none =>
          rw [hstored] at hanswer
          cases hanswer
      | some stored =>
          rw [hstored] at hanswer
          obtain rfl := Except.ok.inj hanswer
          rfl

/-- Objects that are there are what requests for them get. -/
theorem exists_runs_get (scheme : Scheme)
    (hstored : ∀ object ∈ objects, ∃ reference, ObjectRef.ofObject object = .ok reference ∧
      store.entries.get? reference = some object) :
    ∃ requests, objects.mapM (GetRequest.ofObject scheme .dynamic) = .ok requests ∧
      Runs getRequested store requests objects store := by
  induction objects with
  | nil => exact ⟨[], rfl, .nil⟩
  | cons object rest ih =>
      rw [List.forall_mem_cons] at hstored
      obtain ⟨⟨reference, hreference, hobject⟩, hrest⟩ := hstored
      obtain ⟨requests, hrequests, hruns⟩ := ih hrest
      obtain ⟨gvk, hgvk, rfl⟩ := Except.map_eq_ok_iff.1 hreference
      have hrequest : GetRequest.ofObject scheme .dynamic object =
          .ok (.dynamic gvk (.ofObject object)) := by
        rw [GetRequest.ofObject, hgvk]
        rfl
      have hget : (getRequested (.dynamic gvk (.ofObject object))).on store =
          (.ok object, store) := by
        have hkept : store.entries.get? (.ofRequest (.dynamic gvk (.ofObject object))) =
            some object := hobject
        rw [on_getRequested, hkept]
      refine ⟨_ :: requests, ?_, .cons hget hruns⟩
      exact Except.mapM_cons_eq_ok_iff.2 ⟨_, requests, hrequest, hrequests, rfl⟩

/-! Batches that go through, and batches that stop. -/

/-- A batch stops at the first item for which its work fails: its error names that item and is of
the class of what went wrong, and the store is as the items before it left it. -/
def Halts {ι α β : Type} (work : ι → Action Store α) (what : String) (key : ι → ObjectKey)
    (store : Store) (items front : List ι) (item : ι) (batch : Action Store β) (after : Store) :
    Prop :=
  ∃ answers error failure, StopsAt work store items front answers after item error after ∧
    batch.on store = (.error failure, after) ∧ failure = .object what (key item) error ∧
    failure.errorClass = error.errorClass

/-- Objects that could all be created: they are there, they cannot be created again, and when they
are deleted the store is as it was. -/
structure CreatesAll (scheme : Scheme) (store : Store) (objects : List Object) (after : Store) :
    Prop where
  runs : Runs (create · {}) store objects objects after
  creates : ((client scheme).createMultiple objects {}).on store = (.ok objects, after)
  adds : Adds store objects after
  gets : ∃ requests, objects.mapM (GetRequest.ofObject scheme .dynamic) = .ok requests ∧
    ((client scheme).getMultiple requests).on after = (.ok objects, after)
  repeats : ∀ first rest, objects = first :: rest → ∃ source,
    ((client scheme).createMultiple objects {}).on after =
      (.error (.object "creating" (.ofObject first) source), after) ∧
    source.errorClass = .alreadyExists
  deletes : ((client scheme).deleteMultiple objects {}).on after = (.ok (), store)

theorem createsAll_of_runs (scheme : Scheme) {answers : List Object}
    (h : Runs (create · {}) store objects answers after) :
    CreatesAll scheme store objects after := by
  obtain ⟨rfl, hadds⟩ := adds_of_runs h
  refine ⟨h, h.on_mapM "creating" .ofObject, hadds, ?_, ?_, ?_⟩
  · obtain ⟨requests, hrequests, hruns⟩ := exists_runs_get scheme hadds.stored
    exact ⟨requests, hrequests, hruns.on_mapM "getting" GetRequest.key⟩
  · rintro first rest rfl
    obtain ⟨reference, hreference, hstored⟩ := hadds.stored first List.mem_cons_self
    have hfails : (create first {}).on after =
        (.error (.alreadyExists reference.groupKind reference.key), after) :=
      on_create_of_present rfl hreference hstored
    have hstops : StopsAt (create · {}) after (first :: rest) [] [] after first _ after :=
      ⟨⟨rest, rfl⟩, .nil, hfails⟩
    exact ⟨_, hstops.on_mapM "creating" .ofObject, rfl⟩
  · have hpresent : ∀ object ∈ answers, ∃ reference, ObjectRef.ofObject object = .ok reference ∧
        (after.entries.get? reference).isSome := by
      intro object hobject
      obtain ⟨reference, hreference, hstored⟩ := hadds.stored object hobject
      exact ⟨reference, hreference, Option.isSome_of_eq_some hstored⟩
    obtain ⟨units, last, hruns⟩ := exists_runs_delete hpresent hadds.distinct
    obtain rfl := (removes_of_runs hruns).eq_of_adds hadds
    exact hruns.on_forM "deleting" .ofObject

theorem createMultiple_goes_through_or_stops (scheme : Scheme) (store : Store)
    (objects : List Object) :
    (∃ after, CreatesAll scheme store objects after) ∨
      ∃ front object after, Adds store front after ∧
        Halts (create · {}) "creating" .ofObject store objects front object
          ((client scheme).createMultiple objects {}) after := by
  rcases runs_or_stopsAt (create · {}) store objects with
    ⟨answers, after, hruns⟩ | ⟨front, answers, middle, object, error, after, hstops⟩
  · exact .inl ⟨after, createsAll_of_runs scheme hruns⟩
  · obtain rfl := create_error hstops.fails
    refine .inr ⟨front, object, after, (adds_of_runs hstops.runs).2, ?_⟩
    exact ⟨answers, error, _, hstops, hstops.on_mapM "creating" .ofObject, rfl, rfl⟩

theorem deleteMultiple_goes_through_or_stops (scheme : Scheme) (store : Store)
    (objects : List Object) :
    (∃ after, Removes store objects after ∧
        ((client scheme).deleteMultiple objects {}).on store = (.ok (), after)) ∨
      ∃ front object after, Removes store front after ∧
        Halts (delete · {}) "deleting" .ofObject store objects front object
          ((client scheme).deleteMultiple objects {}) after := by
  rcases runs_or_stopsAt (delete · {}) store objects with
    ⟨units, after, hruns⟩ | ⟨front, units, middle, object, error, after, hstops⟩
  · exact .inl ⟨after, removes_of_runs hruns, hruns.on_forM "deleting" .ofObject⟩
  · obtain rfl := delete_error hstops.fails
    refine .inr ⟨front, object, after, removes_of_runs hstops.runs, ?_⟩
    exact ⟨units, error, _, hstops, hstops.on_forM "deleting" .ofObject, rfl, rfl⟩

theorem getMultiple_goes_through_or_stops (scheme : Scheme) (store : Store)
    (requests : List GetRequest) :
    (∃ objects, requests.map (fun request => store.entries.get? (.ofRequest request)) =
          objects.map some ∧
        ((client scheme).getMultiple requests).on store = (.ok objects, store)) ∨
      ∃ front request, store.entries.get? (.ofRequest request) = none ∧
        Halts getRequested "getting" GetRequest.key store requests front request
          ((client scheme).getMultiple requests) store := by
  rcases runs_or_stopsAt getRequested store requests with
    ⟨objects, after, hruns⟩ | ⟨front, objects, middle, request, error, after, hstops⟩
  · obtain ⟨rfl, hobjects⟩ := eq_of_runs_get hruns
    exact .inl ⟨objects, hobjects, hruns.on_mapM "getting" GetRequest.key⟩
  · obtain ⟨rfl, -⟩ := eq_of_runs_get hstops.runs
    have hfails := hstops.fails
    rw [on_getRequested] at hfails
    obtain ⟨hmissing, rfl⟩ := Prod.mk.inj hfails
    refine .inr ⟨front, request, ?_, ?_⟩
    · cases hstored : middle.entries.get? (.ofRequest request) with
      | none => rfl
      | some stored =>
          rw [hstored] at hmissing
          cases hmissing
    · exact ⟨objects, error, _, hstops, hstops.on_mapM "getting" GetRequest.key, rfl, rfl⟩

/-- A batch on a store goes through, or it stops at the first item for which it fails.  Objects
that were created are read back as they are, are not created twice, and are gone once they are
deleted. -/
theorem batches_go_through_or_stop (scheme : Scheme) (store : Store) :
    (∀ objects : List Object,
      (∃ after, CreatesAll scheme store objects after) ∨
      ∃ front object after, Adds store front after ∧
        Halts (create · {}) "creating" .ofObject store objects front object
          ((client scheme).createMultiple objects {}) after) ∧
    (∀ objects : List Object,
      (∃ after, Removes store objects after ∧
        ((client scheme).deleteMultiple objects {}).on store = (.ok (), after)) ∨
      ∃ front object after, Removes store front after ∧
        Halts (delete · {}) "deleting" .ofObject store objects front object
          ((client scheme).deleteMultiple objects {}) after) ∧
    ∀ requests : List GetRequest,
      (∃ objects, requests.map (fun request => store.entries.get? (.ofRequest request)) =
          objects.map some ∧
        ((client scheme).getMultiple requests).on store = (.ok objects, store)) ∨
      ∃ front request, store.entries.get? (.ofRequest request) = none ∧
        Halts getRequested "getting" GetRequest.key store requests front request
          ((client scheme).getMultiple requests) store :=
  ⟨createMultiple_goes_through_or_stops scheme store,
    deleteMultiple_goes_through_or_stops scheme store,
    getMultiple_goes_through_or_stops scheme store⟩

end Reconciler.Store
