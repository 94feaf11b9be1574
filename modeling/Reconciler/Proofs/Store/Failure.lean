import Reconciler.Proofs.Object.Status
import Reconciler.Proofs.Store.Typed
/-!
What operations on objects of a type leave of a store when they fail.  A store that refuses an
object is as it was.  An object is converted once more after it was written, though, and what was
written stays when it cannot be received: nothing is taken back.
-/
namespace Reconciler.Store

variable {scheme : Scheme} {type : ObjectType} {object : type.Value}
  {write : Object → Action Store Object} {store after : Store} {error : ClientError}

/-- Send an object of a type, have it written, and receive what was written. -/
def exchange (scheme : Scheme) (type : ObjectType) (write : Object → Action Store Object)
    (object : type.Value) : Action Store type.Value := do
  (client scheme).received type (← write (← (client scheme).sent type object))

/-- How an exchange fails: nothing was written, or what was written cannot be received. -/
inductive ExchangeFails (scheme : Scheme) (type : ObjectType) (write : Object → Action Store Object)
    (object : type.Value) (store : Store) : ClientError → Store → Prop where
  | spared (error : ClientError) : ExchangeFails scheme type write object store error store
  | written {dynamic answer : Object} {after : Store} {source : SchemeError}
      (hsent : scheme.toDynamic type object = .ok dynamic)
      (hwritten : (write dynamic).on store = (.ok answer, after))
      (hreceived : scheme.fromDynamic type answer = .error source) :
      ExchangeFails scheme type write object store (.scheme source) after

theorem on_sent (store : Store) :
    ((client scheme).sent type object).on store =
      ((scheme.toDynamic type object).mapError .scheme, store) := rfl

theorem on_received_eq (answer : Object) (store : Store) :
    ((client scheme).received type answer).on store =
      ((scheme.fromDynamic type answer).mapError .scheme, store) := rfl

/-- If writing spares the store when it fails, only receiving fails after something was written. -/
theorem exchange_error
    (hspares : ∀ {dynamic store after error},
      (write dynamic).on store = (.error error, after) → after = store)
    (h : (exchange scheme type write object).on store = (.error error, after)) :
    ExchangeFails scheme type write object store error after := by
  rw [exchange, Attempt.on_bind, on_sent] at h
  cases hsent : scheme.toDynamic type object with
  | error source =>
      simp only [hsent, Except.mapError, Prod.mk.injEq] at h
      rw [← h.2]
      exact .spared error
  | ok dynamic =>
      simp only [hsent, Except.mapError, Attempt.on_bind] at h
      cases hwritten : (write dynamic).on store with
      | mk result changed =>
          cases result with
          | error refused =>
              simp only [hwritten, Prod.mk.injEq] at h
              rw [← h.2, hspares hwritten]
              exact .spared error
          | ok answer =>
              simp only [hwritten, on_received_eq] at h
              cases hreceived : scheme.fromDynamic type answer with
              | ok value => simp [hreceived, Except.mapError] at h
              | error source =>
                  simp only [hreceived, Except.mapError, Prod.mk.injEq, Except.error.injEq] at h
                  obtain ⟨rfl, rfl⟩ := h
                  exact .written hsent hwritten hreceived

/-- An exchange whose answers can all be received spares the store when it fails. -/
theorem ExchangeFails.eq_store (h : ExchangeFails scheme type write object store error after)
    (hreceives : ∀ dynamic answer, scheme.toDynamic type object = .ok dynamic →
      (write dynamic).on store = (.ok answer, after) →
        ∃ kept, scheme.fromDynamic type answer = .ok kept) : after = store := by
  cases h with
  | spared error => rfl
  | written hsent hwritten hreceived =>
      obtain ⟨kept, hkept⟩ := hreceives _ _ hsent hwritten
      rw [hreceived] at hkept
      cases hkept

theorem update_error {dynamic : Object} {params : PostParams}
    (h : (update dynamic params).on store = (.error error, after)) : after = store :=
  addressing_error (fun _ => replace_error) h

theorem updateStatus_error {dynamic : Object} {params : PostParams}
    (h : (updateStatus dynamic params).on store = (.error error, after)) : after = store :=
  addressing_error (fun _ => replace_error) h

/-- What is kept under a reference has a kind. -/
theorem exists_gvk_of_ofObject {dynamic : Object} {reference : ObjectRef}
    (h : ObjectRef.ofObject dynamic = .ok reference) : ∃ gvk, dynamic.gvk = .ok gvk := by
  obtain ⟨gvk, hgvk, -⟩ := Except.map_eq_ok_iff.1 h
  exact ⟨gvk, hgvk⟩

/-- What failing operations on objects of a type leave of a store.  The operations that answer with
the object either spare the store, or have written all that they had to write; the others always
spare it.  An object that comes back when it was sent is not refused after it was written, unless
it only gave its status to a stored object that could not be received before. -/
structure Spares (scheme : Scheme) (type : ObjectType) (store : Store) : Prop where
  create : ∀ (object : type.Value) (params : PostParams) (error : ClientError) (after : Store),
    ((client scheme).createObject type object params).on store = (.error error, after) →
      ExchangeFails scheme type (Store.create · params) object store error after ∧
      (scheme.Faithful type object → after = store)
  update : ∀ (object : type.Value) (params : PostParams) (error : ClientError) (after : Store),
    ((client scheme).updateObject type object params).on store = (.error error, after) →
      ExchangeFails scheme type (Store.update · params) object store error after ∧
      (scheme.Faithful type object → after = store)
  updateStatus : ∀ (object : type.Value) (params : PostParams) (error : ClientError)
      (after : Store),
    ((client scheme).updateObjectStatus type object params).on store = (.error error, after) →
      ExchangeFails scheme type (Store.updateStatus · params) object store error after ∧
      (scheme.Faithful type object →
        (∀ dynamic reference stored, scheme.toDynamic type object = .ok dynamic →
          ObjectRef.ofObject dynamic = .ok reference →
            store.entries.get? reference = some stored →
              ∃ value, scheme.fromDynamic type stored = .ok value) →
        after = store)
  delete : ∀ (object : type.Value) (params : DeleteParams) (error : ClientError) (after : Store),
    ((client scheme).deleteObject type object params).on store = (.error error, after) →
      after = store
  deleteAll : ∀ (options : ListOptions) (params : DeleteParams) (error : ClientError)
      (after : Store),
    ((client scheme).deleteAllObjects type options params).on store = (.error error, after) →
      after = store

/-- Whatever was written by whom: no operation on objects of a type changes a store in part. -/
theorem typed_spares (scheme : Scheme) (type : ObjectType) (store : Store) :
    Spares scheme type store where
  create object params error after h := by
    have hfails : ExchangeFails scheme type (Store.create · params) object store error after :=
      exchange_error create_error h
    refine ⟨hfails, fun hfaithful => hfails.eq_store ?_⟩
    intro dynamic answer hsent hwritten
    obtain ⟨-, reference, hreference, -, rfl, -⟩ := create_ok_iff.1 hwritten
    obtain ⟨gvk, hgvk⟩ := exists_gvk_of_ofObject hreference
    exact hfaithful.exists_fromDynamic hsent hgvk
  update object params error after h := by
    have hfails : ExchangeFails scheme type (Store.update · params) object store error after :=
      exchange_error update_error h
    refine ⟨hfails, fun hfaithful => hfails.eq_store ?_⟩
    intro dynamic answer hsent hwritten
    obtain ⟨-, reference, hreference, stored, -, rfl, -⟩ := update_ok_iff.1 hwritten
    obtain ⟨gvk, hgvk⟩ := exists_gvk_of_ofObject hreference
    exact hfaithful.exists_fromDynamic hsent hgvk
  updateStatus object params error after h := by
    have hfails : ExchangeFails scheme type (Store.updateStatus · params) object store error
        after := exchange_error updateStatus_error h
    refine ⟨hfails, fun hfaithful hbefore => hfails.eq_store ?_⟩
    intro dynamic answer hsent hwritten
    obtain ⟨-, reference, hreference, stored, hstored, rfl, -⟩ := updateStatus_ok_iff.1 hwritten
    obtain ⟨gvk, hgvk⟩ := exists_gvk_of_ofObject hreference
    -- The answer is the stored object with the new status, so that both must be readable.
    obtain ⟨value, hvalue⟩ := hbefore dynamic reference stored hsent hreference hstored
    exact hfaithful.exists_fromDynamic_setStatus hsent hgvk hvalue
  delete object params error after h := by
    rw [Client.deleteObject, Attempt.on_bind, on_sent] at h
    cases hsent : scheme.toDynamic type object with
    | error source =>
        simp only [hsent, Except.mapError, Prod.mk.injEq] at h
        exact h.2.symm
    | ok dynamic =>
        simp only [hsent, Except.mapError] at h
        exact delete_error h
  deleteAll options params error after h := by
    rw [Client.deleteAllObjects, Attempt.on_bind, on_ofScheme] at h
    cases hgvk : (client scheme).scheme.gvk type with
    | error source =>
        simp only [hgvk, Except.mapError, Prod.mk.injEq] at h
        exact h.2.symm
    | ok gvk =>
        simp only [hgvk, Except.mapError] at h
        exact deleteAllOf_error h

/-- A store with a deployment of a version that deployments are no longer of. -/
def outdated : Store :=
  ((create
    { types := some ⟨"apps/v1beta1", "Deployment"⟩
      metadata := { name := some "web", namespaceName := some "default" }
      data := some .empty } {}).on {}).2

/-- The deployment with a status. -/
def available : Deployment .kept where
  metadata := { name := some "web", namespaceName := some "default" }
  row := (none, some (some (1 : Int), Deployment.statusTable.blank.2), ())

/-- The status is written, although the update fails: the outdated deployment cannot be received. -/
theorem updateObjectStatus_not_spares :
    (((client .defaults).updateObjectStatus (.known (Deployment.kind .kept)) available {}).on
        outdated).1.isOk = false ∧
      (((client .defaults).updateObjectStatus (.known (Deployment.kind .kept)) available {}).on
        outdated).2.objects ≠ outdated.objects := by
  decide +kernel

end Reconciler.Store
