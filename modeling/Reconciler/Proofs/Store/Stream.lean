import Reconciler.Proofs.Client.Stream
import Reconciler.Proofs.Object.Identity
import Reconciler.Proofs.Store.Batch
/-!
Objects of a file on a store.  An object that was read says of what kind it is, which is not always
enough to resolve its kind: reading asks for an API version that is not empty, and resolving for one
with a version behind its first slash.  What is done with the objects of a file fails for nothing
else that they say.
-/
namespace Reconciler

namespace Object

/-- The API version and the kind that are written in a document. -/
def Declares (document : Yaml.Value) (types : TypeMeta) : Prop :=
  ∃ fields, document.toJson? = some (.obj fields) ∧
    Entries.get? "apiVersion" fields = some (.str types.apiVersion) ∧
    Entries.get? "kind" fields = some (.str types.kind)

/-- What becomes of type information of which no part is empty: a kind, whose API version is the
one that is written but for a slash at its beginning, or an error that names the API version. -/
inductive Resolves (types : TypeMeta) : Except SchemeError GroupVersionKind → Prop
  | kind {gvk : GroupVersionKind} (complete : ¬ GroupVersion.EndsAtSlash types.apiVersion)
      (same : gvk.kind = types.kind) (group : '/' ∉ gvk.group.toList) (version : gvk.version ≠ "")
      (apiVersion : types.apiVersion = gvk.apiVersion ∨
        gvk.group = "" ∧ types.apiVersion = "/" ++ gvk.apiVersion) : Resolves types (.ok gvk)
  | unresolved (ends : GroupVersion.EndsAtSlash types.apiVersion) :
      Resolves types (.error (.invalidApiVersion types.apiVersion))

variable {document : Yaml.Value} {object : Object} {types : TypeMeta}

/-- An object has the type information that is written in its document. -/
theorem Describes.exists_types (h : Describes document object) :
    ∃ types, Declares document types ∧ object.types = some types ∧
      types.apiVersion ≠ "" ∧ types.kind ≠ "" := by
  obtain ⟨json, ⟨apiVersion, hversion, hversionNe⟩, ⟨kind, hkind, hkindNe⟩, hdecoded⟩ := h
  exact ⟨⟨apiVersion, kind⟩, ⟨_, json, hversion, hkind⟩,
    (types_of_decode? hversion hkind hdecoded).1, hversionNe, hkindNe⟩

theorem resolves_of_types (htypes : object.types = some types) (hversion : types.apiVersion ≠ "")
    (hkind : types.kind ≠ "") : Resolves types object.gvk := by
  have hunset : ¬ (types.kind.isEmpty ∨ types.apiVersion.isEmpty) := by
    simp [hkind, hversion]
  rw [gvk, htypes]
  simp only [if_neg hunset, GroupVersion.parse]
  rcases hparse : GroupVersion.parse? types.apiVersion with _ | ⟨group, version⟩
  · exact .unresolved ((GroupVersion.parse?_eq_none_iff.1 hparse).resolve_left hversion)
  · have hcomplete : ¬ GroupVersion.EndsAtSlash types.apiVersion := by
      intro hends
      rw [GroupVersion.parse?_eq_none_iff.2 (.inr hends)] at hparse
      cases hparse
    obtain ⟨hne, hdivided⟩ := GroupVersion.parse?_eq_some_iff.1 hparse
    rcases hdivided with ⟨rfl, rfl, -⟩ | ⟨hgroup, hwritten⟩
    · exact .kind hcomplete rfl (by simp) hne (.inl rfl)
    · refine .kind hcomplete rfl hgroup hne ?_
      by_cases hbare : group = ""
      · subst hbare
        exact .inr ⟨rfl, by simpa [GroupVersionKind.apiVersion] using hwritten⟩
      · exact .inl (by simpa [GroupVersionKind.apiVersion, hbare] using hwritten)

/-- Of the objects that are read, each has the kind that is written in its document, and it resolves
unless the API version ends at its first slash. -/
theorem forall₂_resolves {text : String} {objects : List Object} (hread : read text = .ok objects) :
    List.Forall₂ (fun document object => ∃ types, Declares document types ∧
        object.types = some types ∧ Resolves types object.gvk)
      (held (Yaml.Value.documents text)) objects := by
  obtain ⟨-, hall⟩ := ofDocuments_eq_ok_iff.1 hread
  refine hall.imp fun document object hdescribes => ?_
  obtain ⟨types, hdeclares, htypes, hversion, hkind⟩ := hdescribes.exists_types
  exact ⟨types, hdeclares, htypes, resolves_of_types htypes hversion hkind⟩

end Object

namespace Store

variable {scheme : Scheme} {store after : Store} {object : Object} {objects : List Object}
  {error : ClientError}

/-- What keeps an object from being created in a store: its kind does not resolve because of the API
version, or there is an object under its reference. -/
inductive Hinders (store : Store) (object : Object) : ClientError → Prop
  | unresolved {types : TypeMeta} (typed : object.types = some types)
      (ends : GroupVersion.EndsAtSlash types.apiVersion) :
      Hinders store object (.scheme (.invalidApiVersion types.apiVersion))
  | taken {found : ObjectRef} (reference : ObjectRef.ofObject object = .ok found)
      (taken : store.entries.contains found = true) :
      Hinders store object (.alreadyExists found.groupKind found.key)

/-- The kind of an object resolves, or does not because its API version ends at its first slash. -/
def Told (object : Object) : Prop :=
  ∃ types, object.types = some types ∧ Object.Resolves types object.gvk

theorem hinders_of_create (htold : Told object)
    (hcreate : (create object {}).on store = (.error error, after)) :
    Hinders store object error := by
  obtain ⟨types, htypes, hresolves⟩ := htold
  have hcheck : validateCreate {} = .ok () := rfl
  rcases hgvk : object.gvk with source | gvk
  · have hreference : reference object = .error (.scheme source) := by
      rw [reference, ObjectRef.ofObject, hgvk]
      rfl
    rw [hgvk] at hresolves
    cases hresolves with
    | unresolved ends =>
        simp only [create, addressing, Attempt.on_bind, hcheck, hreference, Attempt.on_ofExcept]
          at hcreate
        obtain rfl := Except.error.inj (congrArg Prod.fst hcreate)
        exact .unresolved htypes ends
  · have hfound : ObjectRef.ofObject object = .ok ⟨gvk.groupKind, .ofObject object⟩ := by
      rw [ObjectRef.ofObject, hgvk]
      rfl
    rcases hstored : store.entries.get? ⟨gvk.groupKind, .ofObject object⟩ with _ | stored
    · rw [on_create_of_absent rfl hfound hstored] at hcreate
      cases congrArg Prod.fst hcreate
    · rw [on_create_of_present rfl hfound hstored] at hcreate
      obtain rfl := Except.error.inj (congrArg Prod.fst hcreate)
      exact .taken hfound (by rw [SortedMap.contains, hstored]; rfl)

/-- All objects are created, or those in front of the first that is hindered. -/
def CreatesRead (scheme : Scheme) (store : Store) (read : Except StreamError (List Object))
    (objects : List Object) : Prop :=
  (∃ after, ((client scheme).createRead read {}).on store = (.ok objects, after) ∧
    Adds store objects after) ∨
  ∃ front object back error after, objects = front ++ object :: back ∧
    ((client scheme).createRead read {}).on store =
      (.error (.object "creating" (.ofObject object) error), after) ∧
    Adds store front after ∧ Hinders after object error

/-- The objects under the references of all objects are got, or one has no kind that resolves, so
that none is asked for, or there is none under the reference of one. -/
def GetsRead (scheme : Scheme) (store : Store) (read : Except StreamError (List Object))
    (objects : List Object) : Prop :=
  (∃ found, ((client scheme).getRead read).on store = (.ok found, store) ∧
    List.Forall₂ (fun object current => ∃ reference, ObjectRef.ofObject object = .ok reference ∧
      store.entries.get? reference = some current) objects found) ∨
  (∃ object ∈ objects, ∃ types, object.types = some types ∧
    GroupVersion.EndsAtSlash types.apiVersion ∧
    ((client scheme).getRead read).on store =
      (.error (.scheme (.invalidApiVersion types.apiVersion)), store)) ∨
  ∃ object ∈ objects, ∃ reference, ObjectRef.ofObject object = .ok reference ∧
    store.entries.get? reference = none ∧
    ((client scheme).getRead read).on store =
      (.error (.object "getting" reference.key (missing reference)), store)

theorem createsRead (scheme : Scheme) (store : Store) (htold : ∀ object ∈ objects, Told object) :
    CreatesRead scheme store (.ok objects) objects := by
  have hcreate := (Client.handles_ok (client scheme) objects).create {}
  rw [CreatesRead, hcreate]
  rcases createMultiple_goes_through_or_stops scheme store objects with
    ⟨after, hall⟩ | ⟨front, object, after, hadds, answers, error, _, hstops, hfails, rfl, -⟩
  · exact .inl ⟨after, hall.creates, hall.adds⟩
  · obtain ⟨back, rfl⟩ := hstops.position
    exact .inr ⟨front, object, back, error, after, rfl, hfails, hadds,
      hinders_of_create (htold object (by simp)) hstops.fails⟩

/-- If requests cannot be made of some objects, none can be made of one of them. -/
theorem exists_gvk_error {source : SchemeError}
    (herror : objects.mapM (GetRequest.ofObject scheme .dynamic) = .error source) :
    ∃ object ∈ objects, object.gvk = .error source := by
  induction objects with
  | nil => cases herror
  | cons first rest ih =>
      rcases hgvk : first.gvk with unresolved | gvk
      · have hfirst : GetRequest.ofObject scheme .dynamic first = .error unresolved := by
          rw [GetRequest.ofObject, hgvk]
          rfl
        rw [List.mapM_cons, hfirst] at herror
        obtain rfl := Except.error.inj herror
        exact ⟨first, List.mem_cons_self, hgvk⟩
      · have hfirst : GetRequest.ofObject scheme .dynamic first =
            .ok (.dynamic gvk (.ofObject first)) := by
          rw [GetRequest.ofObject, hgvk]
          rfl
        rw [List.mapM_cons, hfirst] at herror
        rcases hrest : rest.mapM (GetRequest.ofObject scheme .dynamic) with unresolved | requests
        · rw [hrest] at herror
          obtain rfl := Except.error.inj herror
          obtain ⟨object, hmem, hobject⟩ := ih hrest
          exact ⟨object, List.mem_cons_of_mem first hmem, hobject⟩
        · rw [hrest] at herror
          cases herror

/-- The request that is made of an object asks for its reference. -/
theorem ofObject_of_request {request : GetRequest}
    (hrequest : GetRequest.ofObject scheme .dynamic object = .ok request) :
    ObjectRef.ofObject object = .ok (.ofRequest request) := by
  obtain ⟨gvk, hgvk, rfl⟩ := Except.map_eq_ok_iff.1 hrequest
  rw [ObjectRef.ofObject, hgvk]
  rfl

/-- Requests that find what they ask for find it for the objects that they were made of. -/
theorem forall₂_of_requests {requests : List GetRequest} {found : List Object}
    (hrequests : objects.mapM (GetRequest.ofObject scheme .dynamic) = .ok requests)
    (hfound : requests.map (fun request => store.entries.get? (.ofRequest request)) =
      found.map some) :
    List.Forall₂ (fun object current => ∃ reference, ObjectRef.ofObject object = .ok reference ∧
      store.entries.get? reference = some current) objects found := by
  induction objects generalizing requests found with
  | nil =>
      obtain rfl : [] = requests := Except.ok.inj hrequests
      obtain rfl : found = [] := List.map_eq_nil_iff.1 hfound.symm
      exact .nil
  | cons first rest ih =>
      obtain ⟨request, others, hfirst, hothers, rfl⟩ := Except.mapM_cons_eq_ok_iff.1 hrequests
      obtain ⟨current, currents, rfl, hcurrent, hcurrents⟩ := List.map_eq_cons_iff.1 hfound.symm
      exact .cons ⟨_, ofObject_of_request hfirst, hcurrent.symm⟩ (ih hothers hcurrents.symm)

theorem getsRead (scheme : Scheme) (store : Store) (htold : ∀ object ∈ objects, Told object) :
    GetsRead scheme store (.ok objects) objects := by
  have hscheme : (client scheme).scheme = scheme := rfl
  rcases (Client.handles_ok (client scheme) objects).get with
    ⟨requests, hrequests, hget⟩ | ⟨source, hsource, hget⟩
  · rw [GetsRead, hget]
    rcases getMultiple_goes_through_or_stops scheme store requests with
      ⟨found, hfound, hgets⟩ |
        ⟨front, request, habsent, answers, error, _, hstops, hfails, rfl, -⟩
    · exact .inl ⟨found, hgets, forall₂_of_requests hrequests hfound⟩
    · obtain ⟨back, hposition⟩ := hstops.position
      have hrequest : request ∈ requests := by
        rw [hposition]
        simp
      obtain ⟨object, hobject, hmade⟩ := (Except.mem_iff_of_mapM hrequests).1 hrequest
      have hmissing := hstops.fails
      rw [on_getRequested, habsent] at hmissing
      obtain rfl := Except.error.inj (congrArg Prod.fst hmissing)
      exact .inr (.inr ⟨object, hobject, .ofRequest request, ofObject_of_request hmade, habsent,
        hfails⟩)
  · rw [hscheme] at hsource
    obtain ⟨object, hobject, hgvk⟩ := exists_gvk_error hsource
    obtain ⟨types, htypes, hresolves⟩ := htold object hobject
    rw [hgvk] at hresolves
    cases hresolves with
    | unresolved ends => exact .inr (.inl ⟨object, hobject, types, htypes, ends, hget store⟩)

/-- What a file is read as was read of a text. -/
theorem exists_read {path : String} {content : Except SystemError (List UInt8)}
    (hread : Object.readAt path content = .ok objects) :
    ∃ text, Object.read text = .ok objects := by
  rcases content with error | octets
  · cases hread
  · rw [Object.readAt] at hread
    cases hdecode : Text.Utf8.decode? octets with
    | none =>
        simp only [hdecode] at hread
        cases hread
    | some text =>
        simp only [hdecode] at hread
        exact ⟨text, hread⟩

theorem told_of_read {text : String} (hread : Object.read text = .ok objects) :
    ∀ object ∈ objects, Told object := by
  have hall := Object.forall₂_resolves hread
  clear hread
  generalize Object.held (Yaml.Value.documents text) = documents at hall
  induction hall with
  | nil => simp
  | cons hfirst _ ih =>
      obtain ⟨types, -, htypes, hresolves⟩ := hfirst
      exact List.forall_mem_cons.2 ⟨⟨types, htypes, hresolves⟩, ih⟩

/-- Every object that is read has the kind that is written in its document, and it resolves unless
its API version ends at its first slash.  On a store the objects of a file are created and got
unless they cannot be read, an API version ends at its first slash, an object to create is there
already, or one to get is not there. -/
theorem read_objects_resolve (scheme : Scheme) (store : Store) :
    (∀ text objects, Object.read text = .ok objects →
      List.Forall₂ (fun document object => ∃ types, Object.Declares document types ∧
          object.types = some types ∧ Object.Resolves types object.gvk)
        (Object.held (Yaml.Value.documents text)) objects) ∧
    ∀ path content,
      (∃ error, Object.readAt path content = .error error ∧
        Client.Refuses (client scheme) (Object.readAt path content) error store) ∨
      ∃ objects, Object.readAt path content = .ok objects ∧
        CreatesRead scheme store (Object.readAt path content) objects ∧
        GetsRead scheme store (Object.readAt path content) objects := by
  refine ⟨fun text objects hread => Object.forall₂_resolves hread, fun path content => ?_⟩
  rcases hread : Object.readAt path content with error | objects
  · exact .inl ⟨error, rfl, Client.refuses_error _ error store⟩
  · obtain ⟨text, htext⟩ := exists_read hread
    have htold := told_of_read htext
    exact .inr ⟨objects, rfl, createsRead scheme store htold, getsRead scheme store htold⟩

/-- An object with a kind and a name, and nothing else. -/
def named (apiVersion kind name : String) : Object where
  types := some ⟨apiVersion, kind⟩
  metadata := { name := some name }
  data := some .empty

/-- An object without a version is read, and stops a batch behind an object that stays created; the
group without a name resolves where it is written with a slash, but is written without one. -/
theorem reads_unresolvable :
    Object.read ("apiVersion: v1\nkind: ConfigMap\nmetadata:\n  name: a\n---\n" ++
        "apiVersion: apps/\nkind: Deployment\nmetadata:\n  name: web\n") =
      .ok [named "v1" "ConfigMap" "a", named "apps/" "Deployment" "web"] ∧
    (named "apps/" "Deployment" "web").gvk = .error (.invalidApiVersion "apps/") ∧
    ((client .defaults).createMultiple
        [named "v1" "ConfigMap" "a", named "apps/" "Deployment" "web"] {}).on .empty =
      (.error (.object "creating" ⟨none, "web"⟩ (.scheme (.invalidApiVersion "apps/"))),
        ⟨SortedMap.empty.insert ⟨⟨"", "ConfigMap"⟩, ⟨none, "a"⟩⟩ (named "v1" "ConfigMap" "a")⟩) ∧
    Object.read "apiVersion: /v1\nkind: Namespace\nmetadata:\n  name: n\n" =
      .ok [named "/v1" "Namespace" "n"] ∧
    (named "/v1" "Namespace" "n").gvk = .ok ⟨"", "v1", "Namespace"⟩ ∧
    (GroupVersionKind.mk "" "v1" "Namespace").apiVersion = "v1" := by
  refine ⟨?_, ?_, ?_, ?_, ?_, ?_⟩
  all_goals decide +kernel

end Store

end Reconciler
