import Reconciler.Api.Client
import Reconciler.Proofs.Store.History
/-!
Where a server is asked for objects, beside where a store keeps them.  A store goes by the key of an
object, for which an empty namespace is none and only the name counts.  A request goes by the
namespace as it is, so that an empty one leaves a gap in the path, and falls back to the prefix for
generated names.  The two agree on the objects that have neither.
-/
namespace Reconciler.Api

open Store (Call)

/-- A collection and the name of an object in it. -/
structure Address where
  collection : Collection
  name : String

namespace Address

/-- The path of an object. -/
def path (address : Address) : String :=
  address.collection.path ++ "/" ++ address.name

/-- The address of an object of a kind by its own metadata. -/
def ofObject (gvk : GroupVersionKind) (object : Object) : Address :=
  ⟨⟨gvk, object.metadata.namespaceName⟩, object.metadata.nameAny⟩

/-- The address of a key among the objects of a kind. -/
def ofKey (gvk : GroupVersionKind) (key : ObjectKey) : Address :=
  ⟨⟨gvk, key.namespaceName⟩, key.name⟩

end Address

/-- Metadata whose namespace is not the empty one and whose name is not to be generated. -/
def Settled (metadata : ObjectMeta) : Prop :=
  metadata.namespaceName ≠ some "" ∧
    (metadata.name.isSome ∨ metadata.generateName.getD "" = "")

instance (metadata : ObjectMeta) : Decidable (Settled metadata) :=
  inferInstanceAs (Decidable (_ ∧ _))

/-- The object that a call changes, and the request of the call at an address. -/
def aboutObject? : Call → Option (Object × (Address → Built))
  | .update object params =>
    some (object, fun address => address.collection.replaceRequest address.name "" object params)
  | .updateStatus object params =>
    some (object, fun address =>
      address.collection.replaceRequest address.name statusPart object params)
  | .patch object change params =>
    some (object, fun address => address.collection.patchRequest address.name "" change params)
  | .patchStatus object change params =>
    some (object, fun address =>
      address.collection.patchRequest address.name statusPart change params)
  | .delete object params =>
    some (object, fun address => address.collection.deleteRequest address.name params)
  | .get .. | .list .. | .create .. | .deleteAllOf .. => none

/-- The kind and the options of a call about many objects, and the request of the call for a
collection. -/
def aboutKind? : Call → Option (GroupVersionKind × ListOptions × (Collection → Built))
  | .list gvk options => some (gvk, options, fun collection => collection.listRequest options)
  | .deleteAllOf gvk options params =>
    some (gvk, options, fun collection => collection.deleteAllRequest options params)
  | .get .. | .create .. | .update .. | .updateStatus .. | .patch .. | .patchStatus .. |
    .delete .. => none

/-- The call for objects in all namespaces. -/
def everywhere : Call → Call
  | .list gvk options => .list gvk { options with namespaceName := none }
  | .deleteAllOf gvk options params =>
    .deleteAllOf gvk { options with namespaceName := none } params
  | call => call

/-- The requests that a call has sent in the end. -/
def requestsAfter (scheme : Scheme) (call : Call) (exchange : Exchange) : List Http.Request :=
  ((call.perform (client scheme)).on exchange).2.requests

/-! Requests of the server's client. -/

variable {α β : Type}

/-- A request that can be made is sent, and no other. -/
theorem requests_exchanging (request : Built) (read : Http.Answer → Except ApiError α)
    (exchange : Exchange) :
    ((exchanging request read).on exchange).2.requests =
      exchange.requests ++ request.toOption.toList := by
  cases request with
  | error error => exact (List.append_nil _).symm
  | ok request => rfl

theorem on_onObject {object : Object} {gvk : GroupVersionKind} (hgvk : object.gvk = .ok gvk)
    (next : Collection → Action Exchange α) (exchange : Exchange) :
    (onObject object next).on exchange =
      (next ⟨gvk, object.metadata.namespaceName⟩).on exchange := by
  rw [onObject, Collection.ofObject, hgvk, Attempt.on_bind]
  rfl

theorem requests_map (change : α → β) (action : Action Exchange α) (exchange : Exchange) :
    ((change <$> action).on exchange).2.requests = (action.on exchange).2.requests := by
  rw [Attempt.on_map]

theorem requestsAfter_of_aboutObject? {scheme : Scheme} {call : Call} {object : Object}
    {request : Address → Built} {gvk : GroupVersionKind}
    (hcall : aboutObject? call = some (object, request)) (hgvk : object.gvk = .ok gvk)
    (exchange : Exchange) :
    requestsAfter scheme call exchange =
      exchange.requests ++ (request (.ofObject gvk object)).toOption.toList := by
  cases call with
  | update target params | updateStatus target params | patch target change params
  | patchStatus target change params | delete target params =>
      cases hcall
      rw [requestsAfter, Call.perform, requests_map, client, on_onObject hgvk,
        requests_exchanging]
      rfl
  | _ => cases hcall

theorem requestsAfter_of_aboutKind? {scheme : Scheme} {call : Call} {gvk : GroupVersionKind}
    {options : ListOptions} {request : Collection → Built}
    (hcall : aboutKind? call = some (gvk, options, request)) (exchange : Exchange) :
    requestsAfter scheme call exchange =
      exchange.requests ++ (request ⟨gvk, options.namespaceName⟩).toOption.toList := by
  cases call with
  | list found settings | deleteAllOf found settings params =>
      cases hcall
      rw [requestsAfter, Call.perform, requests_map, client, requests_exchanging]
  | _ => cases hcall

/-- A request is for the target that it is built for. -/
theorem target?_of_build {method : Http.Method} {target : String}
    {change : Http.Request → Http.Request} {sent : Http.Request}
    (hbuild : build method target change = .ok sent)
    (hchange : ∀ request, (change request).uri = request.uri) :
    Http.target? target = some sent.uri := by
  unfold build at hbuild
  cases htarget : Http.target? target with
  | none => simp [htarget] at hbuild
  | some uri =>
      simp only [htarget, Except.ok.injEq] at hbuild
      rw [← hbuild, hchange]

section Targets

variable {collection : Collection} {name part : String} {sent : Http.Request}

theorem target?_of_replaceRequest {object : Object} {params : PostParams}
    (hsent : collection.replaceRequest name part object params = .ok sent) :
    ∃ query, Http.target? (withQuery (collection.path ++ "/" ++ name ++ part) query) =
      some sent.uri := by
  obtain ⟨_, -, hbuild⟩ := Except.bind_eq_ok_iff.1 hsent
  exact ⟨_, target?_of_build hbuild fun _ => rfl⟩

theorem target?_of_patchRequest {change : Patch} {params : PatchParams}
    (hsent : collection.patchRequest name part change params = .ok sent) :
    ∃ query, Http.target? (withQuery (collection.path ++ "/" ++ name ++ part) query) =
      some sent.uri := by
  obtain ⟨_, -, hsent⟩ := Except.bind_eq_ok_iff.1 hsent
  obtain ⟨_, -, hsent⟩ := Except.bind_eq_ok_iff.1 hsent
  by_cases hforce : params.force ∧ patchType change ≠ patchType (.apply .null)
  · rw [if_pos hforce] at hsent
    cases hsent
  · rw [if_neg hforce] at hsent
    exact ⟨_, target?_of_build hsent fun _ => rfl⟩

theorem target?_of_deleteRequest {params : DeleteParams}
    (hsent : collection.deleteRequest name params = .ok sent) :
    Http.target? (withQuery (collection.path ++ "/" ++ name) []) = some sent.uri := by
  obtain ⟨_, -, hbuild⟩ := Except.bind_eq_ok_iff.1 hsent
  exact target?_of_build hbuild fun _ => rfl

theorem target?_of_listRequest {options : ListOptions}
    (hsent : collection.listRequest options = .ok sent) :
    ∃ query, Http.target? (withQuery collection.path query) = some sent.uri := by
  obtain ⟨_, -, hbuild⟩ := Except.bind_eq_ok_iff.1 hsent
  exact ⟨_, target?_of_build hbuild fun _ => rfl⟩

theorem target?_of_deleteAllRequest {options : ListOptions} {params : DeleteParams}
    (hsent : collection.deleteAllRequest options params = .ok sent) :
    ∃ query, Http.target? (withQuery collection.path query) = some sent.uri := by
  unfold Collection.deleteAllRequest at hsent
  exact ⟨_, target?_of_build hsent fun _ => rfl⟩

end Targets

/-- The request of a call on an object at an address goes to the address, or to the status there. -/
theorem target?_of_aboutObject? {call : Call} {object : Object} {request : Address → Built}
    {address : Address} {sent : Http.Request} (hcall : aboutObject? call = some (object, request))
    (hsent : request address = .ok sent) :
    ∃ part ∈ ["", statusPart], ∃ query,
      Http.target? (withQuery (address.path ++ part) query) = some sent.uri := by
  cases call with
  | update target params | updateStatus target params =>
      cases hcall
      exact ⟨_, by simp, target?_of_replaceRequest hsent⟩
  | patch target change params | patchStatus target change params =>
      cases hcall
      exact ⟨_, by simp, target?_of_patchRequest hsent⟩
  | delete target params =>
      cases hcall
      refine ⟨"", by simp, [], ?_⟩
      rw [String.append_empty]
      exact target?_of_deleteRequest hsent
  | _ => cases hcall

theorem target?_of_aboutKind? {call : Call} {gvk : GroupVersionKind} {options : ListOptions}
    {request : Collection → Built} {collection : Collection} {sent : Http.Request}
    (hcall : aboutKind? call = some (gvk, options, request))
    (hsent : request collection = .ok sent) :
    ∃ query, Http.target? (withQuery collection.path query) = some sent.uri := by
  cases call with
  | list found settings =>
      cases hcall
      exact target?_of_listRequest hsent
  | deleteAllOf found settings params =>
      cases hcall
      exact target?_of_deleteAllRequest hsent
  | _ => cases hcall

/-! Addresses beside keys. -/

variable {metadata : ObjectMeta}

/-- How many characters a namespace takes in a path. -/
def placeLength (namespaceName : Option String) : Nat :=
  (namespaceName.map fun name => 12 + name.length).getD 0

theorem length_path (gvk : GroupVersionKind) (namespaceName : Option String) :
    (Collection.path ⟨gvk, namespaceName⟩).length =
      (Collection.path ⟨gvk, none⟩).length + placeLength namespaceName := by
  have hplace : "namespaces/".length = 11 := by decide
  have hslash : "/".length = 1 := by decide
  cases namespaceName with
  | none => rfl
  | some name =>
      simp only [Collection.path, collectionPath, placeLength, String.length_append, hplace,
        hslash, String.length_empty, Option.map_some, Option.getD_some]
      omega

theorem path_eq_iff {gvk : GroupVersionKind} {namespaceName : Option String} :
    Collection.path ⟨gvk, namespaceName⟩ = Collection.path ⟨gvk, none⟩ ↔ namespaceName = none := by
  constructor
  · intro hpath
    have hlength := congrArg String.length hpath
    rw [length_path] at hlength
    cases namespaceName with
    | none => rfl
    | some name =>
        simp only [placeLength, Option.map_some, Option.getD_some] at hlength
        omega
  · rintro rfl
    rfl

/-- A key takes an empty namespace for none. -/
theorem namespaceName_ofMeta (metadata : ObjectMeta) :
    (ObjectKey.ofMeta metadata).namespaceName = metadata.namespaceName ∨
      metadata.namespaceName = some "" ∧ (ObjectKey.ofMeta metadata).namespaceName = none := by
  simp only [ObjectKey.ofMeta]
  cases metadata.namespaceName with
  | none => exact .inl rfl
  | some name =>
      by_cases hempty : name = ""
      · subst hempty
        exact .inr ⟨rfl, rfl⟩
      · have hkept : name.isEmpty = false := by simpa using hempty
        exact .inl (by simp [Option.filter, hkept])

/-- A key has no name where a request takes the prefix for generated ones. -/
theorem nameAny_eq (metadata : ObjectMeta) :
    metadata.nameAny = (ObjectKey.ofMeta metadata).name ∨
      metadata.name = none ∧ (ObjectKey.ofMeta metadata).name = "" ∧
        metadata.nameAny = metadata.generateName.getD "" := by
  simp only [ObjectKey.ofMeta, ObjectMeta.nameAny]
  cases metadata.name with
  | none => exact .inr ⟨rfl, rfl, rfl⟩
  | some name => exact .inl rfl

theorem settled_iff : Settled metadata ↔
    metadata.namespaceName = (ObjectKey.ofMeta metadata).namespaceName ∧
      metadata.nameAny = (ObjectKey.ofMeta metadata).name := by
  have hnamespace := namespaceName_ofMeta metadata
  have hname := nameAny_eq metadata
  constructor
  · rintro ⟨hplace, hset⟩
    constructor
    · rcases hnamespace with hsame | ⟨hempty, -⟩
      · exact hsame.symm
      · exact absurd hempty hplace
    · rcases hname with hsame | ⟨hunset, hkey, hgenerated⟩
      · exact hsame
      · rw [hunset] at hset
        rw [hgenerated, hkey]
        simpa using hset
  · rintro ⟨hplace, hsame⟩
    constructor
    · intro hempty
      rw [ObjectKey.ofMeta, hempty] at hplace
      cases hplace
    · cases hset : metadata.name with
      | some name => exact .inl rfl
      | none =>
          rw [ObjectMeta.nameAny, ObjectKey.ofMeta, hset] at hsame
          exact .inr hsame

theorem ofObject_eq_ofKey {object : Object} (h : Settled object.metadata)
    (gvk : GroupVersionKind) : Address.ofObject gvk object = .ofKey gvk (.ofObject object) := by
  obtain ⟨hplace, hname⟩ := settled_iff.1 h
  rw [Address.ofObject, Address.ofKey, ObjectKey.ofObject, hname, ← hplace]

/-- The address of an object is that of its key, or has a longer path. -/
theorem path_ofObject_eq_iff {gvk : GroupVersionKind} {object : Object} :
    (Address.ofObject gvk object).path = (Address.ofKey gvk (.ofObject object)).path ↔
      Settled object.metadata := by
  refine ⟨fun hpath => ?_, fun hsettled => by rw [ofObject_eq_ofKey hsettled]⟩
  have hlength := congrArg String.length hpath
  simp only [Address.path, Address.ofObject, Address.ofKey, ObjectKey.ofObject,
    String.length_append, length_path gvk object.metadata.namespaceName,
    length_path gvk (ObjectKey.ofMeta object.metadata).namespaceName] at hlength
  rw [settled_iff]
  rcases namespaceName_ofMeta object.metadata with hplace | ⟨hempty, hnone⟩
  · refine ⟨hplace.symm, ?_⟩
    rcases nameAny_eq object.metadata with hname | ⟨-, hunset, -⟩
    · exact hname
    · rw [hplace, hunset, String.length_empty] at hlength
      rw [hunset, ← String.length_eq_zero_iff]
      omega
  · have hshort : placeLength (some "") = 12 := rfl
    have hlong : (ObjectKey.ofMeta object.metadata).name.length ≤
        object.metadata.nameAny.length := by
      rcases nameAny_eq object.metadata with hname | ⟨-, hunset, -⟩
      · rw [hname]
      · rw [hunset, String.length_empty]
        exact Nat.zero_le _
    rw [hempty, hnone, hshort, placeLength, Option.map_none, Option.getD_none] at hlength
    omega

/-! What the same calls do to a store. -/

/-- A call on an object reaches nothing in a store but what is kept under the reference of the
object. -/
theorem get?_of_aboutObject? {scheme : Scheme} {call : Call} {object : Object}
    {request : Address → Built} {reference other : ObjectRef}
    (hcall : aboutObject? call = some (object, request))
    (hreference : ObjectRef.ofObject object = .ok reference) (hother : other ≠ reference)
    (store : Store) :
    ((call.perform (Store.client scheme)).on store).2.entries.get? other =
      store.entries.get? other := by
  cases hperform : (call.perform (Store.client scheme)).on store with
  | mk result after =>
      cases result with
      | error error => rw [Store.perform_error hperform]
      | ok answer =>
          have hbelongs : Store.belongs other object = false := by
            rw [Bool.eq_false_iff, Ne, Store.belongs_iff, hreference]
            exact fun hsame => hother (Except.ok.inj hsame).symm
          rw [Store.perform_ok_get? hperform]
          cases call with
          | update target params | updateStatus target params | delete target params =>
              cases hcall
              simp [Call.leaves, hbelongs]
          | patch target change params | patchStatus target change params => rfl
          | _ => cases hcall

/-- A store takes an empty namespace for all namespaces. -/
theorem perform_everywhere {scheme : Scheme} {call : Call} {gvk : GroupVersionKind}
    {options : ListOptions} {request : Collection → Built}
    (hcall : aboutKind? call = some (gvk, options, request))
    (h : options.namespaceName.getD "" = "") :
    (everywhere call).perform (Store.client scheme) = call.perform (Store.client scheme) := by
  cases call with
  | list found settings =>
      cases hcall
      simp only [everywhere, Call.perform, Store.client, Store.list, Store.ofOptions_everywhere h]
      rfl
  | deleteAllOf found settings params =>
      cases hcall
      simp only [everywhere, Call.perform, Store.client, Store.deleteAllOf,
        Store.ofOptions_everywhere h]
      rfl
  | _ => cases hcall

/-! Both clients. -/

/-- What the calls on an object of a known kind are about, for a server and for a store. -/
structure ReachesObjects (scheme : Scheme) : Prop where
  /-- A server is asked for the object by its own namespace, and its name or the prefix. -/
  sends : ∀ call object request gvk exchange, aboutObject? call = some (object, request) →
    object.gvk = .ok gvk →
      requestsAfter scheme call exchange =
        exchange.requests ++ (request (.ofObject gvk object)).toOption.toList
  /-- A request at an address goes to the path of the address, or to the status there. -/
  target : ∀ call object request address sent, aboutObject? call = some (object, request) →
    request address = .ok sent → ∃ part ∈ ["", statusPart], ∃ query,
      Http.target? (withQuery (address.path ++ part) query) = some sent.uri
  /-- If the metadata are settled this is the request for the key of the object. -/
  agrees : ∀ call object request gvk exchange, aboutObject? call = some (object, request) →
    object.gvk = .ok gvk → Settled object.metadata →
      requestsAfter scheme call exchange =
        exchange.requests ++ (request (.ofKey gvk (.ofObject object))).toOption.toList
  /-- If they are not, the request is for another path. -/
  path_eq_iff : ∀ gvk object,
    (Address.ofObject gvk object).path = (Address.ofKey gvk (.ofObject object)).path ↔
      Settled object.metadata
  /-- A store changes nothing but what it keeps under the kind and the key of the object. -/
  keeps : ∀ call object request gvk store other, aboutObject? call = some (object, request) →
    object.gvk = .ok gvk → other ≠ ⟨gvk.groupKind, .ofObject object⟩ →
      ((call.perform (Store.client scheme)).on store).2.entries.get? other =
        store.entries.get? other

/-- What the calls on the objects of a kind are about, for a server and for a store. -/
structure ReachesKinds (scheme : Scheme) : Prop where
  sends : ∀ call gvk options request exchange, aboutKind? call = some (gvk, options, request) →
    requestsAfter scheme call exchange =
      exchange.requests ++ (request ⟨gvk, options.namespaceName⟩).toOption.toList
  target : ∀ call gvk options request collection sent,
    aboutKind? call = some (gvk, options, request) → request collection = .ok sent →
      ∃ query, Http.target? (withQuery collection.path query) = some sent.uri
  /-- A server is asked for all namespaces only if the namespace is unset. -/
  path_eq_iff : ∀ gvk namespaceName,
    Collection.path ⟨gvk, namespaceName⟩ = Collection.path ⟨gvk, none⟩ ↔ namespaceName = none
  /-- A store goes through all namespaces also if it is empty. -/
  perform_everywhere : ∀ call gvk options request,
    aboutKind? call = some (gvk, options, request) → options.namespaceName.getD "" = "" →
      (everywhere call).perform (Store.client scheme) = call.perform (Store.client scheme)

/-- A server and a store are asked for the same object exactly if its namespace is not the empty one
and its name is not to be generated, and both for all namespaces if the namespace is unset; an empty
namespace is all namespaces to a store alone. -/
theorem clients_reach (scheme : Scheme) : ReachesObjects scheme ∧ ReachesKinds scheme where
  left :=
    { sends := fun _ _ _ _ exchange hcall hgvk => requestsAfter_of_aboutObject? hcall hgvk exchange
      target := fun _ _ _ _ _ hcall hsent => target?_of_aboutObject? hcall hsent
      agrees := by
        intro call object request gvk exchange hcall hgvk hsettled
        rw [requestsAfter_of_aboutObject? hcall hgvk, ofObject_eq_ofKey hsettled]
      path_eq_iff := fun _ _ => path_ofObject_eq_iff
      keeps := by
        intro call object request gvk store other hcall hgvk hother
        have hreference : ObjectRef.ofObject object = .ok ⟨gvk.groupKind, .ofObject object⟩ := by
          rw [ObjectRef.ofObject, hgvk]
          rfl
        exact get?_of_aboutObject? hcall hreference hother store }
  right :=
    { sends := fun _ _ _ _ exchange hcall => requestsAfter_of_aboutKind? hcall exchange
      target := fun _ _ _ _ _ _ hcall hsent => target?_of_aboutKind? hcall hsent
      path_eq_iff := fun _ _ => Api.path_eq_iff
      perform_everywhere := fun _ _ _ _ hcall hname => Api.perform_everywhere hcall hname }

/-- A config map in the empty namespace. -/
def unplaced : Object where
  types := some ⟨"v1", "ConfigMap"⟩
  metadata := { name := some "a", namespaceName := some "" }
  data := some .empty

/-- A config map that a server has yet to name. -/
def unnamed : Object where
  types := some ⟨"v1", "ConfigMap"⟩
  metadata := { generateName := some "a-", namespaceName := some "default" }
  data := some .empty

/-- What a store keeps as a config map without namespace, or lists with those of all namespaces, a
server is asked for in a namespace without a name; and an object without a name, by the prefix. -/
theorem requests_leave_keys :
    let gvk : GroupVersionKind := ⟨"", "v1", "ConfigMap"⟩
    let everything : ListOptions := { namespaceName := some "" }
    let store : Store := (((Store.client .defaults).create unplaced {}).on {}).2
    let uris (call : Call) := (requestsAfter .defaults call ⟨[], []⟩).map fun sent => sent.uri
    (((Store.client .defaults).get gvk ⟨none, "a"⟩).on store).1 = .ok unplaced ∧
      uris (.delete unplaced {}) = ["/api/v1/namespaces//configmaps/a?"] ∧
      (((Store.client .defaults).list gvk everything).on store).1 = .ok [unplaced] ∧
      uris (.list gvk everything) = ["/api/v1/namespaces//configmaps?"] ∧
      uris (.deleteAllOf gvk everything {}) = ["/api/v1/namespaces//configmaps?"] ∧
      ObjectKey.ofObject unnamed = ⟨some "default", ""⟩ ∧
      uris (.delete unnamed {}) = ["/api/v1/namespaces/default/configmaps/a-?"] := by
  decide +kernel

end Reconciler.Api
