import Mathlib
import Reconciler.Store.Client
/-!
What one operation does to a store: when it succeeds, what it answers, and which entries it leaves.
A failing operation leaves the store as it was.
-/
namespace Reconciler.Store

variable {α : Type}

@[simp] theorem on_kept (store : Store) : kept.on store = (.ok store.entries, store) := rfl

@[simp] theorem on_rewrite
    (change : SortedMap ObjectRef Object → SortedMap ObjectRef Object) (store : Store) :
    (rewrite change).on store = (.ok (), ⟨change store.entries⟩) := rfl

theorem refuse_eq_ok_iff {isSet : Bool} {what : String} {passed : Unit} :
    refuse isSet what = .ok passed ↔ isSet = false := by
  cases isSet <;> simp [refuse]

theorem validateCreate_eq_ok_iff {params : PostParams} :
    validateCreate params = .ok () ↔ params.dryRun = false :=
  refuse_eq_ok_iff

theorem validateUpdate_eq_ok_iff {params : PostParams} :
    validateUpdate params = .ok () ↔ params.dryRun = false ∧ params.fieldManager = none := by
  simp [validateUpdate, Except.bind_eq_ok_iff, refuse_eq_ok_iff]

theorem validateList_eq_ok_iff {options : ListOptions} :
    validateList options = .ok () ↔
      options.limit = none ∧ options.continueToken = none ∧ options.fieldSelector = none := by
  simp [validateList, Except.bind_eq_ok_iff, refuse_eq_ok_iff]

theorem validateDelete_eq_ok_iff {params : DeleteParams} :
    validateDelete params = .ok () ↔
      params.dryRun = false ∧ params.gracePeriodSeconds = none ∧ params.preconditions = none ∧
        params.propagationPolicy = none := by
  simp [validateDelete, Except.bind_eq_ok_iff, refuse_eq_ok_iff]

theorem reference_eq_ok_iff {object : Object} {found : ObjectRef} :
    reference object = .ok found ↔ ObjectRef.ofObject object = .ok found :=
  Except.mapError_eq_ok_iff

theorem addressing_ok_iff {check : Except ClientError Unit} {object : Object}
    {next : ObjectRef → Action Store α} {store after : Store} {value : α} :
    (addressing check object next).on store = (.ok value, after) ↔
      check = .ok () ∧ ∃ found, ObjectRef.ofObject object = .ok found ∧
        (next found).on store = (.ok value, after) := by
  simp only [addressing, Attempt.on_bind, Attempt.on_ofExcept, ← reference_eq_ok_iff]
  cases check with
  | error error => simp
  | ok checked =>
      cases reference object with
      | error error => simp
      | ok found => simp

/-- A failure before the reference is known changes nothing, so only what comes next matters. -/
theorem addressing_error {check : Except ClientError Unit} {object : Object}
    {next : ObjectRef → Action Store α} {store after : Store} {error : ClientError}
    (hnext : ∀ found, (next found).on store = (.error error, after) → after = store)
    (h : (addressing check object next).on store = (.error error, after)) : after = store := by
  simp only [addressing, Attempt.on_bind, Attempt.on_ofExcept] at h
  cases check with
  | error refused => exact (congrArg Prod.snd h).symm
  | ok checked =>
      cases hfound : reference object with
      | error unresolved =>
          simp only [hfound] at h
          exact (congrArg Prod.snd h).symm
      | ok found =>
          simp only [hfound] at h
          exact hnext found h

/-- Reading never changes the store, and finds what is kept under the reference. -/
theorem on_get (store : Store) (gvk : GroupVersionKind) (key : ObjectKey) :
    (get gvk key).on store =
      (match store.entries.get? ⟨gvk.groupKind, key⟩ with
        | some object => .ok object
        | none => .error (.notFound gvk.groupKind key), store) := by
  simp only [get, Attempt.on_bind, on_kept]
  cases store.entries.get? ⟨gvk.groupKind, key⟩ <;> rfl

theorem list_after {gvk : GroupVersionKind} {options : ListOptions} {store after : Store}
    {result : Except ClientError (List Object)}
    (h : (list gvk options).on store = (result, after)) : after = store := by
  simp only [list, Attempt.on_bind, Attempt.on_ofExcept] at h
  cases hlist : validateList options with
  | error refused => simp_all
  | ok checked =>
      cases hfilter : Filter.ofOptions options with
      | error malformed => simp_all
      | ok filter => simp_all

theorem create_ok_iff {object answer : Object} {params : PostParams} {store after : Store} :
    (create object params).on store = (.ok answer, after) ↔
      params.dryRun = false ∧ ∃ found, ObjectRef.ofObject object = .ok found ∧
        store.entries.get? found = none ∧ answer = object ∧
          after = ⟨store.entries.insert found object⟩ := by
  rw [create, addressing_ok_iff, validateCreate_eq_ok_iff]
  refine and_congr_right fun _ => exists_congr fun found => and_congr_right fun _ => ?_
  simp only [Attempt.on_bind, on_kept, SortedMap.contains]
  rcases (store.entries.get? found).eq_none_or_eq_some with habsent | ⟨stored, hstored⟩
  · simp [habsent, Attempt.on_map, Except.map, eq_comm]
  · simp [hstored]

theorem replace_ok_iff {reference : ObjectRef} {change : Object → Object} {store after : Store}
    {answer : Object} :
    (replace reference change).on store = (.ok answer, after) ↔
      ∃ stored, store.entries.get? reference = some stored ∧ answer = change stored ∧
        after = ⟨store.entries.insert reference (change stored)⟩ := by
  simp only [replace, Attempt.on_bind, on_kept]
  cases store.entries.get? reference with
  | some stored => simp [Attempt.on_map, Except.map, eq_comm]
  | none => simp

theorem update_ok_iff {object answer : Object} {params : PostParams} {store after : Store} :
    (update object params).on store = (.ok answer, after) ↔
      (params.dryRun = false ∧ params.fieldManager = none) ∧
        ∃ found, ObjectRef.ofObject object = .ok found ∧
          ∃ stored, store.entries.get? found = some stored ∧ answer = object ∧
            after = ⟨store.entries.insert found object⟩ := by
  simp only [update, addressing_ok_iff, validateUpdate_eq_ok_iff, replace_ok_iff]

theorem updateStatus_ok_iff {object answer : Object} {params : PostParams} {store after : Store} :
    (updateStatus object params).on store = (.ok answer, after) ↔
      (params.dryRun = false ∧ params.fieldManager = none) ∧
        ∃ found, ObjectRef.ofObject object = .ok found ∧
          ∃ stored, store.entries.get? found = some stored ∧
            answer = stored.setStatus (object.field? "status") ∧
              after = ⟨store.entries.insert found (stored.setStatus (object.field? "status"))⟩ := by
  simp only [updateStatus, addressing_ok_iff, validateUpdate_eq_ok_iff, replace_ok_iff]

theorem delete_ok_iff {object : Object} {params : DeleteParams} {answer : Unit}
    {store after : Store} :
    (delete object params).on store = (.ok answer, after) ↔
      (params.dryRun = false ∧ params.gracePeriodSeconds = none ∧ params.preconditions = none ∧
        params.propagationPolicy = none) ∧
        ∃ found, ObjectRef.ofObject object = .ok found ∧
          (store.entries.get? found).isSome ∧ after = ⟨store.entries.erase found⟩ := by
  rw [delete, addressing_ok_iff, validateDelete_eq_ok_iff]
  refine and_congr_right fun _ => exists_congr fun found => and_congr_right fun _ => ?_
  simp only [Attempt.on_bind, on_kept, on_rewrite, SortedMap.contains]
  rcases (store.entries.get? found).eq_none_or_eq_some with habsent | ⟨stored, hstored⟩
  · simp [habsent]
  · simp [hstored, eq_comm]

theorem deleteAllOf_ok_iff {gvk : GroupVersionKind} {options : ListOptions}
    {params : DeleteParams} {answer : Unit} {store after : Store} :
    (deleteAllOf gvk options params).on store = (.ok answer, after) ↔
      (options.limit = none ∧ options.continueToken = none ∧ options.fieldSelector = none) ∧
        (params.dryRun = false ∧ params.gracePeriodSeconds = none ∧ params.preconditions = none ∧
          params.propagationPolicy = none) ∧
          ∃ filter, Filter.ofOptions options = .ok filter ∧
            after = ⟨store.entries.filter fun reference object =>
              !selects gvk filter reference object⟩ := by
  rw [← validateList_eq_ok_iff, ← validateDelete_eq_ok_iff]
  simp only [deleteAllOf, Attempt.on_bind, Attempt.on_ofExcept]
  cases validateList options with
  | error refused => simp
  | ok checked =>
      cases validateDelete params with
      | error refused => simp
      | ok checked =>
          cases Filter.ofOptions options with
          | error malformed => simp
          | ok filter => simp [eq_comm]

/-! When the operations on one object succeed. -/

theorem create_succeeds_iff {object : Object} {params : PostParams} {store : Store} :
    (∃ answer after, (create object params).on store = (.ok answer, after)) ↔
      params.dryRun = false ∧
        ∃ found, ObjectRef.ofObject object = .ok found ∧ store.entries.get? found = none := by
  constructor
  · rintro ⟨answer, after, h⟩
    obtain ⟨hcheck, found, hfound, habsent, -, -⟩ := create_ok_iff.1 h
    exact ⟨hcheck, found, hfound, habsent⟩
  · rintro ⟨hcheck, found, hfound, habsent⟩
    exact ⟨_, _, create_ok_iff.2 ⟨hcheck, found, hfound, habsent, rfl, rfl⟩⟩

/-- Replacing an object succeeds exactly if it is there, whatever it is replaced by. -/
theorem replacing_succeeds_iff {object : Object} {params : PostParams}
    {change : Object → Object} {store : Store} :
    (∃ answer after, (addressing (validateUpdate params) object fun found =>
        replace found change).on store = (.ok answer, after)) ↔
      (params.dryRun = false ∧ params.fieldManager = none) ∧
        ∃ found, ObjectRef.ofObject object = .ok found ∧ (store.entries.get? found).isSome := by
  simp only [addressing_ok_iff, validateUpdate_eq_ok_iff, replace_ok_iff]
  constructor
  · rintro ⟨answer, after, hcheck, found, hfound, stored, hstored, -, -⟩
    exact ⟨hcheck, found, hfound, Option.isSome_of_eq_some hstored⟩
  · rintro ⟨hcheck, found, hfound, hpresent⟩
    obtain ⟨stored, hstored⟩ := Option.isSome_iff_exists.1 hpresent
    exact ⟨_, _, hcheck, found, hfound, stored, hstored, rfl, rfl⟩

theorem delete_succeeds_iff {object : Object} {params : DeleteParams} {store : Store} :
    (∃ answer after, (delete object params).on store = (.ok answer, after)) ↔
      (params.dryRun = false ∧ params.gracePeriodSeconds = none ∧ params.preconditions = none ∧
        params.propagationPolicy = none) ∧
        ∃ found, ObjectRef.ofObject object = .ok found ∧ (store.entries.get? found).isSome := by
  constructor
  · rintro ⟨answer, after, h⟩
    obtain ⟨hcheck, found, hfound, hpresent, -⟩ := delete_ok_iff.1 h
    exact ⟨hcheck, found, hfound, hpresent⟩
  · rintro ⟨hcheck, found, hfound, hpresent⟩
    exact ⟨(), _, delete_ok_iff.2 ⟨hcheck, found, hfound, hpresent, rfl⟩⟩

/-! Failures leave the store as it was. -/

theorem create_error {object : Object} {params : PostParams} {store after : Store}
    {error : ClientError} (h : (create object params).on store = (.error error, after)) :
    after = store := by
  refine addressing_error (fun found hnext => ?_) h
  simp only [Attempt.on_bind, on_kept, SortedMap.contains] at hnext
  rcases (store.entries.get? found).eq_none_or_eq_some with habsent | ⟨stored, hstored⟩
  · simp [habsent, Attempt.on_map, Except.map] at hnext
  · simp [hstored] at hnext
    exact hnext.2.symm

theorem replace_error {reference : ObjectRef} {change : Object → Object} {store after : Store}
    {error : ClientError} (h : (replace reference change).on store = (.error error, after)) :
    after = store := by
  simp only [replace, Attempt.on_bind, on_kept] at h
  cases hstored : store.entries.get? reference with
  | some stored => simp [hstored, Attempt.on_map, Except.map] at h
  | none =>
      simp only [hstored, Attempt.on_throw, Prod.mk.injEq] at h
      exact h.2.symm

/-- The entry is taken out before it is known whether there was one; taking out nothing changes
nothing. -/
theorem delete_error {object : Object} {params : DeleteParams} {store after : Store}
    {error : ClientError} (h : (delete object params).on store = (.error error, after)) :
    after = store := by
  refine addressing_error (fun found hnext => ?_) h
  simp only [Attempt.on_bind, on_kept, on_rewrite, SortedMap.contains] at hnext
  rcases (store.entries.get? found).eq_none_or_eq_some with habsent | ⟨stored, hstored⟩
  · simp only [habsent, Option.isSome_none, Bool.false_eq_true, ↓reduceIte, Attempt.on_throw,
      Prod.mk.injEq] at hnext
    rw [← hnext.2, SortedMap.erase_of_get?_eq_none habsent]
  · simp [hstored] at hnext

theorem deleteAllOf_error {gvk : GroupVersionKind} {options : ListOptions}
    {params : DeleteParams} {store after : Store} {error : ClientError}
    (h : (deleteAllOf gvk options params).on store = (.error error, after)) : after = store := by
  simp only [deleteAllOf, Attempt.on_bind, Attempt.on_ofExcept] at h
  cases hlist : validateList options with
  | error refused => simp_all
  | ok checked =>
      cases hdelete : validateDelete params with
      | error refused => simp_all
      | ok checked =>
          cases hfilter : Filter.ofOptions options with
          | error malformed => simp_all
          | ok filter => simp [hlist, hdelete, hfilter] at h

end Reconciler.Store
