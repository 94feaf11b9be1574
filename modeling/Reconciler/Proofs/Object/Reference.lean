import Mathlib
import Reconciler.Attempt
import Reconciler.Proofs.Object.Scheme
/-!
References to objects, and requests for them.  A reference is made of an object along its type or
along what the object says of itself, and of a request along the kind that the request was made
with; all ways lead to the same reference.  Requests are told apart by more than that: two requests
for one object are different if they want it in different types.
-/
namespace Reconciler

/-- Two objects, each of a type, that agree in all that identifies an object.  The version is left
out, an unset name is the empty one, and the empty namespace is none. -/
structure Coincide (scheme : Scheme) (type other : ObjectType) (object : type.Value)
    (twin : other.Value) : Prop where
  kind : ∃ gvk found, scheme.gvkFor type object = .ok gvk ∧ scheme.gvkFor other twin = .ok found ∧
    gvk.group = found.group ∧ gvk.kind = found.kind
  name : (type.metadata object).name.getD "" = (other.metadata twin).name.getD ""
  place : (type.metadata object).namespaceName.getD "" =
    (other.metadata twin).namespaceName.getD ""

/-- The path of the type that a request for an object wants it in, none for objects of any kind. -/
def ObjectType.wanted : ObjectType → Option String
  | .dynamic => none
  | type => some type.path

theorem ObjectType.wanted_ne {type other : ObjectType} (hne : type.path ≠ other.path) :
    type.wanted ≠ other.wanted := by
  intro hsame
  apply hne
  cases type <;> cases other <;> simp_all [wanted]

/-- An object says of itself what a reference says of an object: the group and the kind, in some
version, the namespace, where the empty one is none, and the name, where an unset one is empty. -/
structure Object.Names (object : Object) (reference : ObjectRef) : Prop where
  kind : ∃ types version, object.types = some types ∧ types.kind ≠ "" ∧
    types.kind = reference.groupKind.kind ∧ version ≠ "" ∧
      (reference.groupKind.group = "" ∧ version = types.apiVersion ∧
          '/' ∉ types.apiVersion.toList ∨
        '/' ∉ reference.groupKind.group.toList ∧
          types.apiVersion = reference.groupKind.group ++ "/" ++ version)
  place : (if object.metadata.namespaceName.getD "" = "" then none
    else object.metadata.namespaceName) = reference.key.namespaceName
  name : object.metadata.name.getD "" = reference.key.name

/-- The reference to an object is the one that the object names. -/
theorem Object.names_iff {object : Object} {reference : ObjectRef} :
    object.Names reference ↔ ObjectRef.ofObject object = .ok reference := by
  obtain ⟨⟨group, kind⟩, ⟨place, name⟩⟩ := reference
  rw [ObjectRef.ofObject, Except.map_eq_ok_iff, ObjectKey.ofObject, ObjectKey.ofMeta,
    ObjectKey.filter_place]
  constructor
  · rintro ⟨⟨types, version, htypes, hset, rfl, hversion, hdivided⟩, rfl, rfl⟩
    refine ⟨⟨group, version, types.kind⟩, gvk_eq_ok_iff.2 ⟨types, htypes, hset, rfl, ?_⟩, rfl⟩
    exact GroupVersion.parse?_eq_some_iff.2 ⟨hversion, hdivided⟩
  · rintro ⟨gvk, hgvk, hreference⟩
    cases hreference
    obtain ⟨types, htypes, hset, hkind, hparse⟩ := gvk_eq_ok_iff.1 hgvk
    obtain ⟨hversion, hdivided⟩ := GroupVersion.parse?_eq_some_iff.1 hparse
    exact ⟨⟨types, gvk.version, htypes, hset, hkind, hversion, hdivided⟩, rfl, rfl⟩

variable {scheme : Scheme} {type other : ObjectType} {object : type.Value} {twin : other.Value}
  {gvk : GroupVersionKind}

namespace ObjectRef

theorem ofTyped_eq_ok (hgvk : scheme.gvkFor type object = .ok gvk) :
    ofTyped scheme type object = .ok ⟨gvk.groupKind, .ofMeta (type.metadata object)⟩ := by
  rw [ofTyped, hgvk]
  rfl

/-- Objects have the same reference exactly if they coincide. -/
theorem ofTyped_eq_iff (hgvk : scheme.gvkFor type object = .ok gvk) :
    ofTyped scheme other twin = ofTyped scheme type object ↔
      Coincide scheme type other object twin := by
  rw [ofTyped_eq_ok hgvk]
  constructor
  · intro hsame
    obtain ⟨found, hfound, hreference⟩ := Except.map_eq_ok_iff.1 hsame
    obtain ⟨hkind, hkey⟩ := mk.inj hreference
    obtain ⟨hgroup, hname⟩ := GroupKind.mk.inj hkind
    obtain ⟨hnames, hplaces⟩ := ObjectKey.ofMeta_eq_ofMeta_iff.1 hkey
    exact ⟨⟨gvk, found, hgvk, hfound, hgroup.symm, hname.symm⟩, hnames.symm, hplaces.symm⟩
  · rintro ⟨⟨kind, found, hkind, hfound, hgroup, hname⟩, hnames, hplaces⟩
    obtain rfl : kind = gvk := Except.ok.inj (hkind.symm.trans hgvk)
    have hkinds : found.groupKind = kind.groupKind := by
      rw [GroupVersionKind.groupKind, GroupVersionKind.groupKind, hgroup, hname]
    have hkeys : ObjectKey.ofMeta (other.metadata twin) = .ofMeta (type.metadata object) :=
      ObjectKey.ofMeta_eq_ofMeta_iff.2 ⟨hnames.symm, hplaces.symm⟩
    rw [ofTyped_eq_ok hfound, hkinds, hkeys]

end ObjectRef

namespace GetRequest

/-- A request for an object is made with the kind of the object and its key. -/
theorem ofObject_eq (scheme : Scheme) (type : ObjectType) (object : type.Value) :
    ofObject scheme type object = (scheme.gvkFor type object).map fun gvk =>
      ⟨type.wanted, gvk, .ofMeta (type.metadata object)⟩ := by
  cases type <;> rfl

theorem ofObject_eq_ok (hgvk : scheme.gvkFor type object = .ok gvk) :
    ofObject scheme type object = .ok ⟨type.wanted, gvk, .ofMeta (type.metadata object)⟩ := by
  rw [ofObject_eq, hgvk]
  rfl

/-- A request for an object asks for the reference of the object, and there is no request exactly
if there is no reference. -/
theorem map_ofRequest (scheme : Scheme) (type : ObjectType) (object : type.Value) :
    (ofObject scheme type object).map .ofRequest = ObjectRef.ofTyped scheme type object := by
  rw [ofObject_eq, ObjectRef.ofTyped]
  cases scheme.gvkFor type object <;> rfl

/-- Requests that want an object in different types are different. -/
theorem ne_of_typed {key : ObjectKey} {first second : GetRequest}
    (hfirst : typed scheme type key = .ok first) (hsecond : second.type ≠ some type.path) :
    first ≠ second := by
  obtain ⟨found, -, rfl⟩ := Except.map_eq_ok_iff.1 hfirst
  rintro rfl
  exact hsecond rfl

theorem key_of_typed {key : ObjectKey} {request : GetRequest}
    (hrequest : typed scheme type key = .ok request) : request.key = key := by
  obtain ⟨found, -, rfl⟩ := Except.map_eq_ok_iff.1 hrequest
  rfl

/-- Requests of one kind, in any version, and for one key ask for the same reference. -/
theorem ofRequest_eq_iff {first second : GetRequest} :
    ObjectRef.ofRequest first = .ofRequest second ↔
      first.gvk.groupKind = second.gvk.groupKind ∧ first.key = second.key := by
  rw [ObjectRef.ofRequest, ObjectRef.ofRequest, ObjectRef.mk.injEq]

end GetRequest

namespace ObjectRefSet

/-- The requests for objects lead to the references of the objects. -/
theorem map_ofRequests (scheme : Scheme) (type : ObjectType) (objects : List type.Value) :
    (objects.mapM (GetRequest.ofObject scheme type)).map ofRequests =
      ofTyped scheme type objects := by
  have hrefs : (objects.mapM (GetRequest.ofObject scheme type)).map (List.map .ofRequest) =
      objects.mapM (ObjectRef.ofTyped scheme type) := by
    rw [Except.map_mapM]
    simp only [GetRequest.map_ofRequest]
  rw [ofTyped, ← hrefs]
  cases objects.mapM (GetRequest.ofObject scheme type) <;> rfl

/-- The set of references to objects has a reference if it is one of theirs. -/
theorem contains_ofTyped_iff {objects : List other.Value} {set : ObjectRefSet}
    (hset : ofTyped scheme other objects = .ok set) {reference : ObjectRef} :
    set.contains reference = true ↔
      ∃ twin ∈ objects, ObjectRef.ofTyped scheme other twin = .ok reference := by
  obtain ⟨references, hreferences, rfl⟩ := Except.map_eq_ok_iff.1 hset
  rw [contains_ofList_iff, Except.mem_iff_of_mapM hreferences]

/-- The order of objects does not matter for the set of their references, nor that some are named
more than once. -/
theorem ofTyped_congr {objects others : List other.Value} {set : ObjectRefSet}
    (hset : ofTyped scheme other objects = .ok set)
    (hsame : ∀ twin, twin ∈ others ↔ twin ∈ objects) : ofTyped scheme other others = .ok set := by
  obtain ⟨references, hreferences, rfl⟩ := Except.map_eq_ok_iff.1 hset
  have hall := Except.exists_mapM_iff.1 ⟨references, hreferences⟩
  obtain ⟨found, hfound⟩ : ∃ found, others.mapM (ObjectRef.ofTyped scheme other) = .ok found := by
    apply Except.exists_mapM_iff.2
    intro twin htwin
    exact hall twin ((hsame twin).1 htwin)
  rw [ofTyped, hfound, Except.map]
  congr 1
  apply ofList_congr
  intro reference
  rw [Except.mem_iff_of_mapM hfound, Except.mem_iff_of_mapM hreferences]
  simp only [hsame]

end ObjectRefSet

/-! Sets of requests. -/

theorem nodup_requestSet (requests : List GetRequest) : (requestSet requests).Nodup := by
  -- The duplicates of the first request are left out before the others are gone through.
  induction hlength : requests.length using Nat.strong_induction_on generalizing requests with
  | h length ih =>
      rcases requests with _ | ⟨first, rest⟩
      · exact List.nodup_nil
      · rw [requestSet, List.eraseDups_cons, List.nodup_cons]
        have hshorter : (rest.filter fun request => !request == first).length < length := by
          rw [← hlength, List.length_cons]
          exact Nat.lt_succ_of_le (List.length_filter_le _ _)
        constructor
        · intro hmem
          rw [List.mem_eraseDups, List.mem_filter] at hmem
          simp at hmem
        · exact ih _ hshorter _ rfl

/-- Of requests that are the same one is kept, and no other is lost. -/
theorem count_requestSet (requests : List GetRequest) (request : GetRequest) :
    (requestSet requests).count request = if request ∈ requests then 1 else 0 := by
  rw [(nodup_requestSet requests).count, requestSet]
  simp only [List.mem_eraseDups]

/-- How the requests for objects and the references to them go together. -/
structure RequestsRefer (scheme : Scheme) : Prop where
  /-- A request for an object asks for the reference of the object, and where there is no reference
  there is no request, for the same reason. -/
  request : ∀ (type : ObjectType) (object : type.Value),
    (GetRequest.ofObject scheme type object).map ObjectRef.ofRequest =
      ObjectRef.ofTyped scheme type object
  /-- A set of references has that of an object exactly if the object coincides with one of those
  that the set was made of, no matter whether the object or a request for it is looked up. -/
  found : ∀ (type other : ObjectType) (object : type.Value) (objects : List other.Value)
      (gvk : GroupVersionKind) (set : ObjectRefSet), scheme.gvkFor type object = .ok gvk →
    ObjectRefSet.ofTyped scheme other objects = .ok set →
      ∃ request, GetRequest.ofObject scheme type object = .ok request ∧
        set.references scheme type object = .ok (set.referencesRequest request) ∧
        (set.referencesRequest request = true ↔
          ∃ twin ∈ objects, Coincide scheme type other object twin)
  /-- The requests for objects lead to the same set as the objects. -/
  requests : ∀ (type : ObjectType) (objects : List type.Value),
    (objects.mapM (GetRequest.ofObject scheme type)).map ObjectRefSet.ofRequests =
      ObjectRefSet.ofTyped scheme type objects
  dynamic : ∀ objects, ObjectRefSet.ofTyped scheme .dynamic objects =
    ObjectRefSet.ofObjects objects
  /-- Neither the order of objects nor their repetition shows in the set. -/
  anyOrder : ∀ (type : ObjectType) (objects others : List type.Value) (set : ObjectRefSet),
    ObjectRefSet.ofTyped scheme type objects = .ok set →
      (∀ object, object ∈ others ↔ object ∈ objects) →
        ObjectRefSet.ofTyped scheme type others = .ok set
  /-- In a set of requests each stands once. -/
  once : ∀ requests request,
    (requestSet requests).count request = if request ∈ requests then 1 else 0
  /-- Objects of different types that coincide have different requests with one reference. -/
  apart : ∀ (type other : ObjectType) (object : type.Value) (twin : other.Value),
    type.path ≠ other.path → Coincide scheme type other object twin →
      ∃ first second, GetRequest.ofObject scheme type object = .ok first ∧
        GetRequest.ofObject scheme other twin = .ok second ∧ first ≠ second ∧
          ObjectRef.ofRequest first = .ofRequest second
  /-- So have two types under one key if they are registered for one kind in any version. -/
  typedApart : ∀ (type other : ObjectType) key first second, type.path ≠ other.path →
    GetRequest.typed scheme type key = .ok first → GetRequest.typed scheme other key = .ok second →
      first ≠ second ∧ (first.gvk.groupKind = second.gvk.groupKind →
        ObjectRef.ofRequest first = .ofRequest second)
  /-- So have a type and objects of any kind. -/
  dynamicApart : ∀ type key gvk request, GetRequest.typed scheme type key = .ok request →
    request ≠ .dynamic gvk key ∧ (request.gvk.groupKind = gvk.groupKind →
      ObjectRef.ofRequest request = .ofRequest (.dynamic gvk key))

/-- Whichever way a reference is reached, it is the same, while requests for it that want different
types are kept apart. -/
theorem requests_refer (scheme : Scheme) : RequestsRefer scheme where
  request := GetRequest.map_ofRequest scheme
  found := by
    intro type other object objects gvk set hgvk hset
    refine ⟨_, GetRequest.ofObject_eq_ok hgvk, ?_, ?_⟩
    · rw [ObjectRefSet.references, ObjectRef.ofTyped_eq_ok hgvk]
      rfl
    · have hreference := ObjectRef.ofTyped_eq_ok hgvk
      rw [ObjectRefSet.referencesRequest, ObjectRef.ofRequest,
        ObjectRefSet.contains_ofTyped_iff hset, ← hreference]
      simp only [ObjectRef.ofTyped_eq_iff hgvk]
  requests := ObjectRefSet.map_ofRequests scheme
  dynamic _ := rfl
  anyOrder _ _ _ _ hset hsame := ObjectRefSet.ofTyped_congr hset hsame
  once := count_requestSet
  apart := by
    intro type other object twin hne h
    obtain ⟨gvk, found, hgvk, hfound, -⟩ := h.kind
    refine ⟨_, _, GetRequest.ofObject_eq_ok hgvk, GetRequest.ofObject_eq_ok hfound, ?_, ?_⟩
    · intro hsame
      exact ObjectType.wanted_ne hne (congrArg GetRequest.type hsame)
    · have hreference := (ObjectRef.ofTyped_eq_iff hgvk).2 h
      rw [ObjectRef.ofTyped_eq_ok hgvk, ObjectRef.ofTyped_eq_ok hfound] at hreference
      exact (Except.ok.inj hreference).symm
  typedApart := by
    intro type other key first second hne hfirst hsecond
    constructor
    · apply GetRequest.ne_of_typed hfirst
      obtain ⟨found, -, rfl⟩ := Except.map_eq_ok_iff.1 hsecond
      intro hsame
      exact hne (Option.some.inj hsame).symm
    · intro hkind
      rw [GetRequest.ofRequest_eq_iff, GetRequest.key_of_typed hfirst,
        GetRequest.key_of_typed hsecond]
      exact ⟨hkind, rfl⟩
  dynamicApart := by
    intro type key gvk request hrequest
    constructor
    · apply GetRequest.ne_of_typed hrequest
      intro hsame
      cases hsame
    · intro hkind
      rw [GetRequest.ofRequest_eq_iff, GetRequest.key_of_typed hrequest]
      exact ⟨hkind, rfl⟩

/-- A config map is asked for twice as such and once as an object of any kind. -/
example :
    let key : ObjectKey := ⟨some "default", "cm"⟩
    let typed : GetRequest :=
      ⟨some (ObjectType.known ConfigMap.kind).path, ⟨"", "v1", "ConfigMap"⟩, key⟩
    let requests := [typed, .dynamic ⟨"", "v2", "ConfigMap"⟩ key, typed]
    (requestSet requests).length = 2 ∧ (ObjectRefSet.ofRequests requests).size = 1 := by
  decide +kernel

end Reconciler
