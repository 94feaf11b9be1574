import Mathlib.Data.List.Induction
import Reconciler.Proofs.Object.Reference
import Reconciler.Proofs.Object.Status
import Reconciler.Proofs.Store.Step
/-!
Histories of a store: the calls that were made on it since it was empty, with their outcomes.  The
log alone says which object each reference leads to, and the store agrees with it after every
history: it is a finite map from references to objects.
-/
namespace Reconciler.Store

variable {σ : Type}

/-- A call of an operation on objects of any kind. -/
inductive Call where
  | get (gvk : GroupVersionKind) (key : ObjectKey)
  | list (gvk : GroupVersionKind) (options : ListOptions)
  | create (object : Object) (params : PostParams)
  | update (object : Object) (params : PostParams)
  | updateStatus (object : Object) (params : PostParams)
  | patch (object : Object) (change : Patch) (params : PatchParams)
  | patchStatus (object : Object) (change : Patch) (params : PatchParams)
  | delete (object : Object) (params : DeleteParams)
  | deleteAllOf (gvk : GroupVersionKind) (options : ListOptions) (params : DeleteParams)

/-- What a successful call answers. -/
inductive Answer where
  | object (object : Object)
  | objects (objects : List Object)
  | done

/-- Make a call through a client. -/
def Call.perform (client : Client σ) : Call → Action σ Answer
  | .get gvk key => .object <$> client.get gvk key
  | .list gvk options => .objects <$> client.list gvk options
  | .create object params => .object <$> client.create object params
  | .update object params => .object <$> client.update object params
  | .updateStatus object params => .object <$> client.updateStatus object params
  | .patch object change params => .object <$> client.patch object change params
  | .patchStatus object change params => .object <$> client.patchStatus object change params
  | .delete object params => (fun _ => .done) <$> client.delete object params
  | .deleteAllOf gvk options params => (fun _ => .done) <$> client.deleteAllOf gvk options params

/-- Calls with their outcomes, the latest call first. -/
abbrev Log := List (Call × Except ClientError Answer)

/-- A log with one more call, and the state after it. -/
def record (client : Client σ) (past : Log × σ) (call : Call) : Log × σ :=
  let outcome := (call.perform client).on past.2
  ((call, outcome.1) :: past.1, outcome.2)

/-- The log of calls made one after another from a state, and the state after the last of them. -/
def history (client : Client σ) (state : σ) (calls : List Call) : Log × σ :=
  calls.foldl (record client) ([], state)

/-- Whether the options of a bulk deletion ask for an object of a kind under a reference. -/
def covers (gvk : GroupVersionKind) (options : ListOptions) (reference : ObjectRef)
    (object : Object) : Bool :=
  reference.groupKind = gvk.groupKind &&
    (options.namespaceName.getD "" = "" ||
      object.metadata.namespaceName = options.namespaceName) &&
    (Label.parse (options.labelSelector.getD "")).toOption.any
      fun selector => selector.matches (object.metadata.labels.getD .empty)

/-- What a successful call makes of what was under a reference. -/
def Call.Leaves (reference : ObjectRef) (before after : Option Object) : Call → Prop
  | .create object _ | .update object _ =>
    (object.Names reference → after = some object) ∧ (¬ object.Names reference → after = before)
  | .updateStatus object _ =>
    (object.Names reference → Option.Rel (Object.TakesStatus · object ·) before after) ∧
      (¬ object.Names reference → after = before)
  | .delete object _ =>
    (object.Names reference → after = none) ∧ (¬ object.Names reference → after = before)
  | .deleteAllOf gvk options _ => ∀ stored,
    after = some stored ↔ before = some stored ∧ covers gvk options reference stored = false
  | .get .. | .list .. | .patch .. | .patchStatus .. => after = before

/-- The object that a log leaves under a reference: what the last successful create or update of
the reference wrote, with the status that later status updates gave it.  Nothing is left if the
reference was never created or was deleted since. -/
inductive Log.Leaves (reference : ObjectRef) : Log → Option Object → Prop where
  | start : Leaves reference [] none
  | failed {call : Call} {error : ClientError} {earlier : Log} {found : Option Object}
      (h : Leaves reference earlier found) :
      Leaves reference ((call, .error error) :: earlier) found
  | done {call : Call} {answer : Answer} {earlier : Log} {before after : Option Object}
      (h : Leaves reference earlier before) (hcall : call.Leaves reference before after) :
      Leaves reference ((call, .ok answer) :: earlier) after

/-- A store that agrees with the log of its calls as a finite map from references to objects. -/
structure Agrees (scheme : Scheme) (log : Log) (store : Store) : Prop where
  kept : ∀ reference found,
    log.Leaves reference found ↔ store.entries.get? reference = found
  /-- Every object is kept under its own reference. -/
  keyed : ∀ entry ∈ store.entries.entries,
    ObjectRef.ofTyped scheme .dynamic entry.2 = .ok entry.1 ∧ entry.2.Names entry.1
  /-- No two objects have one reference, whatever their versions. -/
  distinct : store.objects.Pairwise fun a b =>
    ∀ reference, a.Names reference → ¬ b.Names reference
  get_eq : ∀ gvk key found, log.Leaves ⟨⟨gvk.group, gvk.kind⟩, key⟩ found →
    ((client scheme).get gvk key).on store =
      (match found with
        | some object => .ok object
        | none => .error (.notFound ⟨gvk.group, gvk.kind⟩ key), store)
  create_iff : ∀ object params,
    (∃ answer after, ((client scheme).create object params).on store = (.ok answer, after)) ↔
      params.dryRun = false ∧
        ∃ reference, object.Names reference ∧ log.Leaves reference none
  update_iff : ∀ object params,
    (∃ answer after, ((client scheme).update object params).on store = (.ok answer, after)) ↔
      (params.dryRun = false ∧ params.fieldManager = none) ∧
        ∃ reference stored, object.Names reference ∧ log.Leaves reference (some stored)
  updateStatus_iff : ∀ object params,
    (∃ answer after,
      ((client scheme).updateStatus object params).on store = (.ok answer, after)) ↔
      (params.dryRun = false ∧ params.fieldManager = none) ∧
        ∃ reference stored, object.Names reference ∧ log.Leaves reference (some stored)
  delete_iff : ∀ object params,
    (∃ answer after, ((client scheme).delete object params).on store = (.ok answer, after)) ↔
      (params.dryRun = false ∧ params.gracePeriodSeconds = none ∧ params.preconditions = none ∧
        params.propagationPolicy = none) ∧
          ∃ reference stored, object.Names reference ∧ log.Leaves reference (some stored)
  /-- A failing call changes nothing. -/
  unchanged : ∀ (call : Call) error after,
    (call.perform (client scheme)).on store = (.error error, after) → after = store

/-! What a log leaves can be computed. -/

/-- Whether an object is kept under a reference. -/
def belongs (reference : ObjectRef) (object : Object) : Bool :=
  (ObjectRef.ofObject object).toOption = some reference

/-- What a successful call leaves under a reference. -/
def Call.leaves (reference : ObjectRef) (before : Option Object) : Call → Option Object
  | .create object _ | .update object _ =>
    if belongs reference object then some object else before
  | .updateStatus object _ =>
    if belongs reference object then
      before.map fun stored => stored.setStatus (object.field? "status")
    else before
  | .delete object _ => if belongs reference object then none else before
  | .deleteAllOf gvk options _ => before.filter fun stored => !covers gvk options reference stored
  | .get .. | .list .. | .patch .. | .patchStatus .. => before

/-- The object that a log leaves under a reference. -/
def Log.written (reference : ObjectRef) : Log → Option Object
  | [] => none
  | (_, .error _) :: earlier => written reference earlier
  | (call, .ok _) :: earlier => call.leaves reference (written reference earlier)

/-! The entries of a store after a call. -/

theorem belongs_iff {reference : ObjectRef} {object : Object} :
    belongs reference object = true ↔ ObjectRef.ofObject object = .ok reference := by
  rw [belongs, decide_eq_true_iff]
  exact Except.toOption_eq_some_iff

theorem belongs_iff_names {reference : ObjectRef} {object : Object} :
    belongs reference object = true ↔ object.Names reference :=
  belongs_iff.trans Object.names_iff.symm

/-- One object takes the status if there is one to take it. -/
theorem rel_takesStatus_iff {source : Object} {before after : Option Object} :
    Option.Rel (Object.TakesStatus · source ·) before after ↔
      before.map (fun stored => stored.setStatus (source.field? "status")) = after := by
  constructor
  · rintro (htakes | -)
    · rw [Option.map_some, Object.takesStatus_iff.1 htakes]
    · rfl
  · rintro rfl
    cases before with
    | none => exact .none
    | some stored => exact .some (Object.takesStatus_iff.2 rfl)

/-- What depends on whether an object names a reference is one of two. -/
theorem names_cases_iff {object : Object} {reference : ObjectRef} {p q : Prop} :
    (object.Names reference → p) ∧ (¬ object.Names reference → q) ↔
      if belongs reference object then p else q := by
  rw [← belongs_iff_names]
  cases belongs reference object <;> simp

theorem Call.leaves_iff {call : Call} {reference : ObjectRef} {before after : Option Object} :
    call.Leaves reference before after ↔ call.leaves reference before = after := by
  cases call with
  | create object params | update object params | delete object params =>
      rw [Leaves, leaves, names_cases_iff]
      split <;> exact eq_comm
  | updateStatus object params =>
      rw [Leaves, leaves, names_cases_iff]
      split
      · exact rel_takesStatus_iff
      · exact eq_comm
  | deleteAllOf gvk options params =>
      rw [Leaves, leaves, Option.ext_iff]
      refine forall_congr' fun stored => ?_
      rw [Option.filter_eq_some_iff, Bool.not_eq_true']
      exact iff_comm
  | _ => exact eq_comm

/-- What a log leaves is what is computed from it, by induction on the log. -/
theorem Log.leaves_iff {log : Log} {reference : ObjectRef} {found : Option Object} :
    log.Leaves reference found ↔ log.written reference = found := by
  induction log generalizing found with
  | nil =>
      constructor
      · rintro ⟨⟩
        rfl
      · rintro rfl
        exact .start
  | cons event earlier ih =>
      obtain ⟨call, error | answer⟩ := event
      · constructor
        · rintro ⟨⟩
          exact ih.1 ‹_›
        · intro h
          exact .failed (ih.2 h)
      · constructor
        · rintro (_ | _ | ⟨h, hcall⟩)
          rw [written, ih.1 h]
          exact Call.leaves_iff.1 hcall
        · intro h
          exact .done (ih.2 rfl) (Call.leaves_iff.2 h)

theorem belongs_eq_of_ofObject {found reference : ObjectRef} {object : Object}
    (hfound : ObjectRef.ofObject object = .ok found) :
    (belongs reference object = true) ↔ compare reference found = .eq := by
  rw [belongs_iff, hfound, Std.compare_eq_iff_eq]
  simp [eq_comm]

/-- What a filter of the store selects is what the options ask for. -/
theorem selects_eq_covers {gvk : GroupVersionKind} {options : ListOptions} {filter : Filter}
    (hfilter : Filter.ofOptions options = .ok filter) (reference : ObjectRef) (object : Object) :
    selects gvk filter reference object = covers gvk options reference object := by
  unfold Filter.ofOptions at hfilter
  cases hparse : Label.parse (options.labelSelector.getD "") with
  | error malformed => simp [hparse] at hfilter
  | ok selector =>
      simp only [hparse, Except.ok.injEq] at hfilter
      subst hfilter
      rw [selects, covers, Filter.admits, ObjectKey.filter_place, hparse, ← Bool.and_assoc,
        ObjectMeta.labelMap]
      by_cases hplace : options.namespaceName.getD "" = ""
      · simp [hplace, Except.toOption]
      · have hset : options.namespaceName.isNone = false := by
          cases hname : options.namespaceName with
          | none => exact absurd (by rw [hname, Option.getD_none]) hplace
          | some name => rfl
        simp [hplace, hset, Except.toOption]

/-- Asking for the empty namespace is asking for all namespaces. -/
theorem ofOptions_everywhere {options : ListOptions} (h : options.namespaceName.getD "" = "") :
    Filter.ofOptions { options with namespaceName := none } = Filter.ofOptions options := by
  have hfilter : options.namespaceName.filter (fun name => !name.isEmpty) = none := by
    rw [ObjectKey.filter_place, if_pos h]
  unfold Filter.ofOptions
  rw [hfilter]
  rfl

theorem get?_insert_ofObject {found : ObjectRef} {object value : Object} {store : Store}
    (hfound : ObjectRef.ofObject object = .ok found) (reference : ObjectRef) :
    (store.entries.insert found value).get? reference =
      if belongs reference object then some value else store.entries.get? reference := by
  rw [SortedMap.get?_insert]
  simp only [belongs_eq_of_ofObject hfound]

theorem get?_erase_ofObject {found : ObjectRef} {object : Object} {store : Store}
    (hfound : ObjectRef.ofObject object = .ok found) (reference : ObjectRef) :
    (store.entries.erase found).get? reference =
      if belongs reference object then none else store.entries.get? reference := by
  rw [SortedMap.get?_erase]
  simp only [belongs_eq_of_ofObject hfound]

/-- A successful call leaves under every reference what it says, and nothing else changes. -/
theorem perform_ok_get? {scheme : Scheme} {call : Call} {store after : Store} {answer : Answer}
    (h : (call.perform (client scheme)).on store = (.ok answer, after)) (reference : ObjectRef) :
    after.entries.get? reference = call.leaves reference (store.entries.get? reference) := by
  cases call with
  | get gvk key =>
      obtain ⟨value, hget, -⟩ := Attempt.on_map_eq_ok.1 h
      rw [client, on_get] at hget
      simp only [Prod.mk.injEq] at hget
      rw [← hget.2, Call.leaves]
  | list gvk options =>
      obtain ⟨value, hlist, -⟩ := Attempt.on_map_eq_ok.1 h
      rw [list_after hlist, Call.leaves]
  | create object params =>
      obtain ⟨value, hcreate, -⟩ := Attempt.on_map_eq_ok.1 h
      obtain ⟨-, found, hfound, -, -, rfl⟩ := create_ok_iff.1 hcreate
      exact get?_insert_ofObject hfound reference
  | update object params =>
      obtain ⟨value, hupdate, -⟩ := Attempt.on_map_eq_ok.1 h
      obtain ⟨-, found, hfound, stored, -, -, rfl⟩ := update_ok_iff.1 hupdate
      exact get?_insert_ofObject hfound reference
  | updateStatus object params =>
      obtain ⟨value, hupdate, -⟩ := Attempt.on_map_eq_ok.1 h
      obtain ⟨-, found, hfound, stored, hstored, -, rfl⟩ := updateStatus_ok_iff.1 hupdate
      rw [get?_insert_ofObject hfound, Call.leaves]
      split
      · rename_i hbelongs
        obtain rfl : found = reference := by
          rw [belongs_iff, hfound] at hbelongs
          exact Except.ok.inj hbelongs
        rw [hstored, Option.map_some]
      · rfl
  | patch object change params =>
      obtain ⟨value, hpatch, -⟩ := Attempt.on_map_eq_ok.1 h
      simp [client] at hpatch
  | patchStatus object change params =>
      obtain ⟨value, hpatch, -⟩ := Attempt.on_map_eq_ok.1 h
      simp [client] at hpatch
  | delete object params =>
      obtain ⟨value, hdelete, -⟩ := Attempt.on_map_eq_ok.1 h
      obtain ⟨-, found, hfound, -, rfl⟩ := delete_ok_iff.1 hdelete
      exact get?_erase_ofObject hfound reference
  | deleteAllOf gvk options params =>
      obtain ⟨value, hdelete, -⟩ := Attempt.on_map_eq_ok.1 h
      obtain ⟨-, -, filter, hfilter, rfl⟩ := deleteAllOf_ok_iff.1 hdelete
      rw [SortedMap.get?_filter, Call.leaves]
      simp only [selects_eq_covers hfilter]

theorem perform_error {scheme : Scheme} {call : Call} {store after : Store} {error : ClientError}
    (h : (call.perform (client scheme)).on store = (.error error, after)) : after = store := by
  cases call with
  | get gvk key =>
      have hget := Attempt.on_map_eq_error.1 h
      rw [client, on_get] at hget
      exact (congrArg Prod.snd hget).symm
  | list gvk options => exact list_after (Attempt.on_map_eq_error.1 h)
  | create object params => exact create_error (Attempt.on_map_eq_error.1 h)
  | update object params =>
      exact addressing_error (fun _ => replace_error) (Attempt.on_map_eq_error.1 h)
  | updateStatus object params =>
      exact addressing_error (fun _ => replace_error) (Attempt.on_map_eq_error.1 h)
  | patch object change params => exact (congrArg Prod.snd (Attempt.on_map_eq_error.1 h)).symm
  | patchStatus object change params => exact (congrArg Prod.snd (Attempt.on_map_eq_error.1 h)).symm
  | delete object params => exact delete_error (Attempt.on_map_eq_error.1 h)
  | deleteAllOf gvk options params => exact deleteAllOf_error (Attempt.on_map_eq_error.1 h)

/-! What every history keeps. -/

/-- A store that keeps every object under its own reference. -/
def Keyed (store : Store) : Prop :=
  ∀ reference object, store.entries.get? reference = some object →
    ObjectRef.ofObject object = .ok reference

theorem Keyed.ofObject_of_mem {store : Store} (h : store.Keyed) {entry : ObjectRef × Object}
    (hmem : entry ∈ store.entries.entries) : ObjectRef.ofObject entry.2 = .ok entry.1 :=
  h entry.1 entry.2 (SortedMap.get?_eq_some_iff.2 hmem)

/-- Under every reference a store keeps what the log says, and no object away from its own
reference. -/
structure Follows (log : Log) (store : Store) : Prop where
  get?_eq : ∀ reference, store.entries.get? reference = log.written reference
  keyed : ∀ reference object, store.entries.get? reference = some object →
    ObjectRef.ofObject object = .ok reference

theorem follows_empty : Follows [] .empty where
  get?_eq _ := rfl
  keyed _ _ h := by cases h

theorem ofObject_setStatus (object : Object) (status : Option Json) :
    ObjectRef.ofObject (object.setStatus status) = ObjectRef.ofObject object := rfl

/-- What a successful call leaves under a reference belongs there if what was there did. -/
theorem Call.leaves_keyed {call : Call} {reference : ObjectRef} {before : Option Object}
    (hbefore : ∀ object, before = some object → ObjectRef.ofObject object = .ok reference)
    {object : Object} (h : call.leaves reference before = some object) :
    ObjectRef.ofObject object = .ok reference := by
  cases call with
  | create written params | update written params =>
      simp only [Call.leaves] at h
      split at h
      · rename_i hbelongs
        rw [← Option.some.inj h]
        exact belongs_iff.1 hbelongs
      · exact hbefore object h
  | updateStatus source params =>
      simp only [Call.leaves] at h
      split at h
      · obtain ⟨stored, hstored, rfl⟩ := Option.map_eq_some_iff.1 h
        rw [ofObject_setStatus]
        exact hbefore stored hstored
      · exact hbefore object h
  | delete removed params =>
      simp only [Call.leaves] at h
      split at h
      · cases h
      · exact hbefore object h
  | deleteAllOf gvk options params => exact hbefore object (Option.filter_eq_some_iff.1 h).1
  | get gvk key => exact hbefore object h
  | list gvk options => exact hbefore object h
  | patch written change params => exact hbefore object h
  | patchStatus written change params => exact hbefore object h

theorem follows_record {scheme : Scheme} {past : Log × Store} (call : Call)
    (h : Follows past.1 past.2) :
    Follows (record (client scheme) past call).1 (record (client scheme) past call).2 := by
  obtain ⟨log, store⟩ := past
  simp only [record]
  cases houtcome : (call.perform (client scheme)).on store with
  | mk result after =>
      cases result with
      | error error =>
          rw [perform_error houtcome]
          exact ⟨h.get?_eq, h.keyed⟩
      | ok answer =>
          have hstep := perform_ok_get? houtcome
          refine ⟨fun reference => ?_, fun reference object hobject => ?_⟩
          · rw [hstep reference, h.get?_eq reference, Log.written]
          · rw [hstep reference] at hobject
            exact Call.leaves_keyed (h.keyed reference) hobject

theorem follows_history (scheme : Scheme) (calls : List Call) :
    Follows (history (client scheme) .empty calls).1 (history (client scheme) .empty calls).2 := by
  induction calls using List.reverseRecOn with
  | nil => exact follows_empty
  | append_singleton earlier call ih =>
      simp only [history, List.foldl_append, List.foldl_cons, List.foldl_nil]
      exact follows_record call ih

theorem Follows.ofObject_of_mem {log : Log} {store : Store} (h : Follows log store)
    {entry : ObjectRef × Object} (hmem : entry ∈ store.entries.entries) :
    ObjectRef.ofObject entry.2 = .ok entry.1 :=
  Keyed.ofObject_of_mem h.keyed hmem

/-- Two objects under different references have different references of their own. -/
theorem Follows.distinct {log : Log} {store : Store} (h : Follows log store) :
    store.objects.Pairwise fun a b => ObjectRef.ofObject a ≠ ObjectRef.ofObject b := by
  rw [objects, SortedMap.values, List.pairwise_map]
  refine List.Pairwise.imp_of_mem ?_ store.entries.sorted
  intro first second hfirst hsecond hless hsame
  rw [h.ofObject_of_mem hfirst, h.ofObject_of_mem hsecond] at hsame
  have hequal : compare first.1 second.1 = .eq := Std.compare_eq_iff_eq.2 (Except.ok.inj hsame)
  rw [hless] at hequal
  cases hequal

theorem Follows.leaves_iff {log : Log} {store : Store} (h : Follows log store)
    {reference : ObjectRef} {found : Option Object} :
    log.Leaves reference found ↔ store.entries.get? reference = found := by
  rw [Log.leaves_iff, h.get?_eq]

/-- An object that is kept under its reference was left there by the log. -/
theorem Follows.exists_leaves_iff {log : Log} {store : Store} (h : Follows log store)
    {object : Object} :
    (∃ reference stored, object.Names reference ∧ log.Leaves reference (some stored)) ↔
      ∃ reference, ObjectRef.ofObject object = .ok reference ∧
        (store.entries.get? reference).isSome := by
  refine exists_congr fun reference => ?_
  rw [exists_and_left, Object.names_iff, Option.isSome_iff_exists]
  simp only [h.leaves_iff]

/-- A store agrees with the log of the calls that were made on it since it was empty, whatever the
calls were and whichever of them failed. -/
theorem history_agrees (scheme : Scheme) (calls : List Call) :
    Agrees scheme (history (client scheme) .empty calls).1
      (history (client scheme) .empty calls).2 := by
  have h := follows_history scheme calls
  generalize history (client scheme) .empty calls = past at h
  refine
    { kept := fun reference found => h.leaves_iff
      keyed := fun entry hmem =>
        ⟨h.ofObject_of_mem hmem, Object.names_iff.2 (h.ofObject_of_mem hmem)⟩
      distinct := ?distinct
      get_eq := ?get_eq
      create_iff := ?create_iff
      update_iff := ?update_iff
      updateStatus_iff := ?updateStatus_iff
      delete_iff := ?delete_iff
      unchanged := fun call error after => perform_error }
  case distinct =>
    refine h.distinct.imp ?_
    intro first second hne reference hfirst hsecond
    exact hne ((Object.names_iff.1 hfirst).trans (Object.names_iff.1 hsecond).symm)
  case get_eq =>
    intro gvk key found hfound
    rw [← h.leaves_iff.1 hfound]
    exact on_get past.2 gvk key
  case create_iff =>
    intro object params
    simp only [Object.names_iff, h.leaves_iff]
    exact create_succeeds_iff
  case update_iff =>
    intro object params
    rw [h.exists_leaves_iff]
    exact replacing_succeeds_iff
  case updateStatus_iff =>
    intro object params
    rw [h.exists_leaves_iff]
    exact replacing_succeeds_iff
  case delete_iff =>
    intro object params
    rw [h.exists_leaves_iff]
    exact delete_succeeds_iff

end Reconciler.Store
