import Reconciler.Proofs.Store.History
/-!
The options of a call that a store does not implement.  The first of them that it refuses fails the
call before anything else is looked at, and a call without any is never refused for its options.
Some are passed over instead: the call is done as if they were not set.
-/
namespace Reconciler

/-- The name of an option if it is set. -/
def named (isSet : Bool) (what : String) : List String :=
  if isSet then [what] else []

/-- The options of a list that are refused. -/
def ListOptions.refused (options : ListOptions) : List String :=
  named options.limit.isSome "limit" ++ named options.continueToken.isSome "continue token" ++
    named options.fieldSelector.isSome "field selector"

/-- The options of an update that are refused. -/
def PostParams.refused (params : PostParams) : List String :=
  named params.dryRun "dry run" ++ named params.fieldManager.isSome "field manager"

/-- The options of a deletion that are refused. -/
def DeleteParams.refused (params : DeleteParams) : List String :=
  named params.dryRun "dry run" ++
    named params.gracePeriodSeconds.isSome "grace period seconds" ++
    named params.preconditions.isSome "preconditions" ++
    named params.propagationPolicy.isSome "propagation policy"

/-- List options that ask for no more than a namespace and labels. -/
def ListOptions.Plain (options : ListOptions) : Prop :=
  options = { namespaceName := options.namespaceName, labelSelector := options.labelSelector }

/-- The list options without those that are passed over. -/
def ListOptions.heeded (options : ListOptions) : ListOptions :=
  { options with timeout := none, resourceVersion := none, versionMatch := none }

namespace Store

namespace Call

/-- What a call asks for that is refused, in the order in which it is looked at. -/
def refused : Call → List String
  | .get .. => []
  | .list _ options => options.refused
  | .create _ params => named params.dryRun "dry run"
  | .update _ params | .updateStatus _ params => params.refused
  | .patch .. | .patchStatus .. => ["patch"]
  | .delete _ params => params.refused
  | .deleteAllOf _ options params => options.refused ++ params.refused

/-- The call asks for nothing that a store does not implement. -/
def Plain : Call → Prop
  | .get .. => True
  | .list _ options => options.Plain
  | .create _ params | .update _ params | .updateStatus _ params => params = {}
  | .patch .. | .patchStatus .. => False
  | .delete _ params => params = {}
  | .deleteAllOf _ options params => options.Plain ∧ params = {}

/-- The call without the options that are passed over. -/
def heeded : Call → Call
  | .list gvk options => .list gvk options.heeded
  | .create object params => .create object { params with fieldManager := none }
  | .deleteAllOf gvk options params => .deleteAllOf gvk options.heeded params
  | call => call

end Call

/-! What is refused. -/

/-- Refuses the first of some options. -/
def refuseFirst : List String → Except ClientError Unit
  | [] => .ok ()
  | what :: _ => .error (.unsupported what)

theorem refuseFirst_append (front back : List String) :
    refuseFirst (front ++ back) = refuseFirst front >>= fun _ => refuseFirst back := by
  cases front <;> rfl

theorem refuseFirst_named (isSet : Bool) (what : String) :
    refuseFirst (named isSet what) = refuse isSet what := by
  cases isSet <;> rfl

theorem validateCreate_eq (params : PostParams) :
    validateCreate params = refuseFirst (named params.dryRun "dry run") :=
  (refuseFirst_named params.dryRun "dry run").symm

theorem validateUpdate_eq (params : PostParams) :
    validateUpdate params = refuseFirst params.refused := by
  simp only [validateUpdate, PostParams.refused, refuseFirst_append, refuseFirst_named]

theorem validateList_eq (options : ListOptions) :
    validateList options = refuseFirst options.refused := by
  simp only [validateList, ListOptions.refused, List.append_assoc, refuseFirst_append,
    refuseFirst_named]

theorem validateDelete_eq (params : DeleteParams) :
    validateDelete params = refuseFirst params.refused := by
  simp only [validateDelete, DeleteParams.refused, List.append_assoc, refuseFirst_append,
    refuseFirst_named]

variable {α β : Type} {scheme : Scheme} {call : Call} {store : Store} {object : Object}
  {what : String} {rest : List String}

theorem addressing_of_refused {check : Except ClientError Unit} {next : ObjectRef → Action Store α}
    (hcheck : check = .error (.unsupported what)) :
    (addressing check object next).on store = (.error (.unsupported what), store) := by
  rw [addressing, hcheck, Attempt.on_bind, Attempt.on_ofExcept]

/-- The first option that is refused fails a call, whatever the store holds and whatever else is
wrong with the call. -/
theorem perform_of_refused (hrefused : call.refused = what :: rest) :
    (call.perform (client scheme)).on store = (.error (.unsupported what), store) := by
  have hfirst : refuseFirst call.refused = .error (.unsupported what) := by
    rw [hrefused]
    rfl
  cases call with
  | get gvk key => cases hrefused
  | list gvk options =>
      rw [Call.refused, ← validateList_eq] at hfirst
      apply Attempt.on_map_eq_error.2
      change (list gvk options).on store = _
      rw [list, hfirst, Attempt.on_bind, Attempt.on_ofExcept]
  | create object params =>
      rw [Call.refused, ← validateCreate_eq] at hfirst
      exact Attempt.on_map_eq_error.2 (addressing_of_refused hfirst)
  | update object params | updateStatus object params =>
      rw [Call.refused, ← validateUpdate_eq] at hfirst
      exact Attempt.on_map_eq_error.2 (addressing_of_refused hfirst)
  | patch object change params | patchStatus object change params =>
      obtain ⟨rfl, -⟩ := List.cons.inj hrefused
      rfl
  | delete object params =>
      rw [Call.refused, ← validateDelete_eq] at hfirst
      exact Attempt.on_map_eq_error.2 (addressing_of_refused hfirst)
  | deleteAllOf gvk options params =>
      rw [Call.refused, refuseFirst_append, ← validateList_eq, ← validateDelete_eq] at hfirst
      apply Attempt.on_map_eq_error.2
      change (deleteAllOf gvk options params).on store = _
      rw [deleteAllOf]
      cases hlist : validateList options with
      | error refused =>
          rw [hlist] at hfirst
          rw [Attempt.on_bind, Attempt.on_ofExcept, ← hfirst]
          rfl
      | ok checked =>
          rw [hlist] at hfirst
          have hdelete : validateDelete params = .error (.unsupported what) := hfirst
          rw [hdelete, Attempt.on_bind, Attempt.on_ofExcept]
          rfl

/-! What is not refused is never told to be unsupported. -/

/-- An action that never fails for what it is asked to do. -/
def Serves (action : Action Store α) : Prop :=
  ∀ store error after, action.on store = (.error error, after) → error.errorClass ≠ .unsupported

namespace Serves

theorem ofExcept {result : Except ClientError α}
    (h : ∀ error, result = .error error → error.errorClass ≠ .unsupported) :
    Serves (.ofExcept result) := by
  intro store error after hfails
  exact h error (congrArg Prod.fst hfails)

theorem bind {action : Action Store α} {next : α → Action Store β} (h : Serves action)
    (hnext : ∀ value, Serves (next value)) : Serves (action >>= next) := by
  intro store error after hfails
  rw [Attempt.on_bind] at hfails
  rcases haction : action.on store with ⟨failed | value, changed⟩
  · rw [haction] at hfails
    obtain ⟨hfailed, -⟩ := Prod.mk.inj hfails
    cases hfailed
    exact h store error changed haction
  · rw [haction] at hfails
    exact hnext value changed error after hfails

theorem map {action : Action Store α} (h : Serves action) (change : α → β) :
    Serves (change <$> action) := by
  intro store error after hfails
  exact h store error after (Attempt.on_map_eq_error.1 hfails)

theorem pure (value : α) : Serves (Pure.pure value : Action Store α) := by
  intro store error after hfails
  cases hfails

theorem throw {error : ClientError} (h : error.errorClass ≠ .unsupported) :
    Serves (throw error : Action Store α) := by
  intro store failure after hfails
  cases hfails
  exact h

theorem kept : Serves kept := by
  intro store error after hfails
  cases hfails

theorem rewrite (change : SortedMap ObjectRef Object → SortedMap ObjectRef Object) :
    Serves (rewrite change) := by
  intro store error after hfails
  cases hfails

theorem filter (options : ListOptions) : Serves (.ofExcept (Filter.ofOptions options)) := by
  apply ofExcept
  intro error hfails
  rw [Filter.ofOptions] at hfails
  cases hparse : Label.parse (options.labelSelector.getD "") with
  | ok selector =>
      rw [hparse] at hfails
      cases hfails
  | error malformed =>
      rw [hparse] at hfails
      cases hfails
      nofun

theorem reference (object : Object) : Serves (.ofExcept (reference object)) := by
  apply ofExcept
  intro error hfails
  rw [Store.reference] at hfails
  cases hfound : ObjectRef.ofObject object with
  | ok found =>
      rw [hfound] at hfails
      cases hfails
  | error unresolved =>
      rw [hfound] at hfails
      cases hfails
      nofun

theorem addressing {check : Except ClientError Unit} {next : ObjectRef → Action Store α}
    (hcheck : check = .ok ()) (hnext : ∀ found, Serves (next found)) :
    Serves (addressing check object next) := by
  rw [Store.addressing, hcheck]
  apply bind (pure ())
  intro _
  exact bind (reference object) hnext

end Serves

theorem serves_get (gvk : GroupVersionKind) (key : ObjectKey) : Serves (get gvk key) := by
  apply Serves.kept.bind
  intro entries
  cases entries.get? ⟨gvk.groupKind, key⟩ with
  | some object => exact .pure object
  | none => exact .throw nofun

theorem serves_list {options : ListOptions} (gvk : GroupVersionKind)
    (hchecked : validateList options = .ok ()) : Serves (list gvk options) := by
  rw [list, hchecked]
  apply Serves.bind (.pure ())
  intro _
  apply Serves.bind (.filter options)
  intro filter
  exact Serves.kept.bind fun entries => .pure _

theorem serves_create {params : PostParams} (object : Object)
    (hchecked : validateCreate params = .ok ()) : Serves (create object params) := by
  apply Serves.addressing hchecked
  intro found
  apply Serves.kept.bind
  intro entries
  by_cases hpresent : entries.contains found = true
  · rw [if_pos hpresent]
    exact .bind (.throw nofun) fun _ => .bind (.rewrite _) fun _ => .pure object
  · rw [if_neg hpresent]
    exact .bind (.rewrite _) fun _ => .pure object

theorem serves_replace (reference : ObjectRef) (change : Object → Object) :
    Serves (replace reference change) := by
  apply Serves.kept.bind
  intro entries
  cases entries.get? reference with
  | some stored => exact .bind (.rewrite _) fun _ => .pure (change stored)
  | none => exact .throw nofun

theorem serves_delete {params : DeleteParams} (object : Object)
    (hchecked : validateDelete params = .ok ()) : Serves (delete object params) := by
  apply Serves.addressing hchecked
  intro found
  apply Serves.kept.bind
  intro entries
  apply Serves.bind (.rewrite _)
  intro _
  by_cases hpresent : entries.contains found = true
  · rw [if_pos hpresent]
    exact .pure ()
  · rw [if_neg hpresent]
    exact .throw nofun

theorem serves_deleteAllOf {options : ListOptions} {params : DeleteParams}
    (gvk : GroupVersionKind) (hlist : validateList options = .ok ())
    (hdelete : validateDelete params = .ok ()) : Serves (deleteAllOf gvk options params) := by
  rw [deleteAllOf, hlist, hdelete]
  apply Serves.bind (.pure ())
  intro _
  apply Serves.bind (.pure ())
  intro _
  exact .bind (.filter options) fun filter => .rewrite _

/-- A call of which nothing is refused fails for other reasons only. -/
theorem serves_perform (scheme : Scheme) (hrefused : call.refused = []) :
    Serves (call.perform (client scheme)) := by
  have hpassed : refuseFirst call.refused = .ok () := by
    rw [hrefused]
    rfl
  cases call with
  | get gvk key => exact (serves_get gvk key).map _
  | list gvk options =>
      rw [Call.refused, ← validateList_eq] at hpassed
      exact (serves_list gvk hpassed).map _
  | create object params =>
      rw [Call.refused, ← validateCreate_eq] at hpassed
      exact (serves_create object hpassed).map _
  | update object params | updateStatus object params =>
      rw [Call.refused, ← validateUpdate_eq] at hpassed
      exact (Serves.addressing hpassed fun found => serves_replace found _).map _
  | patch object change params | patchStatus object change params => cases hrefused
  | delete object params =>
      rw [Call.refused, ← validateDelete_eq] at hpassed
      exact (serves_delete object hpassed).map _
  | deleteAllOf gvk options params =>
      obtain ⟨hlist, hdelete⟩ := List.append_eq_nil_iff.1 hrefused
      have hlistPassed : validateList options = .ok () := by
        rw [validateList_eq, hlist]
        rfl
      have hdeletePassed : validateDelete params = .ok () := by
        rw [validateDelete_eq, hdelete]
        rfl
      exact (serves_deleteAllOf gvk hlistPassed hdeletePassed).map _

/-! What is passed over. -/

theorem named_eq_nil_iff {isSet : Bool} : named isSet what = [] ↔ isSet = false := by
  cases isSet <;> simp [named]

theorem refused_list_iff {options : ListOptions} :
    options.refused = [] ↔ options.heeded.Plain := by
  simp only [ListOptions.refused, List.append_eq_nil_iff, named_eq_nil_iff]
  cases options
  simp only [ListOptions.Plain, ListOptions.heeded, ListOptions.mk.injEq,
    Option.isSome_eq_false_iff, Option.isNone_iff_eq_none]
  tauto

theorem refused_post_iff {params : PostParams} : params.refused = [] ↔ params = {} := by
  simp only [PostParams.refused, List.append_eq_nil_iff, named_eq_nil_iff]
  cases params
  simp

theorem refused_delete_iff {params : DeleteParams} : params.refused = [] ↔ params = {} := by
  simp only [DeleteParams.refused, List.append_eq_nil_iff, named_eq_nil_iff]
  cases params
  simp only [DeleteParams.mk.injEq, Option.isSome_eq_false_iff, Option.isNone_iff_eq_none]
  tauto

/-- Everything that a store does not implement is refused, but for what is passed over. -/
theorem refused_iff : call.refused = [] ↔ call.heeded.Plain := by
  cases call with
  | get gvk key => simp [Call.refused, Call.heeded, Call.Plain]
  | list gvk options => exact refused_list_iff
  | create object params =>
      simp only [Call.refused, Call.heeded, Call.Plain, named_eq_nil_iff]
      cases params
      simp
  | update object params | updateStatus object params => exact refused_post_iff
  | patch object change params | patchStatus object change params =>
      simp [Call.refused, Call.heeded, Call.Plain]
  | delete object params => exact refused_delete_iff
  | deleteAllOf gvk options params =>
      exact List.append_eq_nil_iff.trans (and_congr refused_list_iff refused_delete_iff)

theorem heeded_of_plain (hplain : call.Plain) : call.heeded = call := by
  cases call with
  | list gvk options =>
      have hoptions : options = _ := hplain
      rw [Call.heeded, hoptions]
      rfl
  | create object params =>
      have hparams : params = {} := hplain
      rw [Call.heeded, hparams]
  | deleteAllOf gvk options params =>
      have hoptions : options = _ := hplain.1
      rw [Call.heeded, hoptions]
      rfl
  | _ => rfl

/-- What is passed over changes nothing about a call. -/
theorem perform_heeded (scheme : Scheme) (call : Call) :
    call.heeded.perform (client scheme) = call.perform (client scheme) := by
  cases call <;> rfl

/-- What a store does about the options of a call that it does not implement. -/
structure Refuses (scheme : Scheme) (call : Call) : Prop where
  /-- The first that it refuses fails the call before anything else is looked at. -/
  first : ∀ what rest, call.refused = what :: rest → ∀ store,
    (call.perform (client scheme)).on store = (.error (.unsupported what), store)
  /-- If it refuses none then the call fails for other reasons only. -/
  served : call.refused = [] → ∀ store error after,
    (call.perform (client scheme)).on store = (.error error, after) →
      error.errorClass ≠ .unsupported
  /-- It refuses all but those that it passes over. -/
  complete : call.refused = [] ↔ call.heeded.Plain
  /-- There is nothing to pass over in a call without such options. -/
  plain : call.Plain → call.heeded = call
  /-- What it passes over changes nothing. -/
  passedOver : call.heeded.perform (client scheme) = call.perform (client scheme)

/-- Options that are not implemented are refused first, by every operation and in every store; the
field manager of a new object, and the time limit and the version that a list asks for, are passed
over. -/
theorem refuses_unimplemented (scheme : Scheme) (call : Call) : Refuses scheme call where
  first _ _ hrefused _ := perform_of_refused hrefused
  served hrefused := serves_perform scheme hrefused
  complete := refused_iff
  plain := heeded_of_plain
  passedOver := perform_heeded scheme call

/-- A new config map is created for a field manager, and listed within a time limit and at a
version, though neither is implemented. -/
theorem passes_over_manager_and_version :
    ¬ (Call.create { types := some ⟨"v1", "ConfigMap"⟩ } { fieldManager := some "me" }).Plain ∧
    ((client .defaults).create { types := some ⟨"v1", "ConfigMap"⟩ }
        { fieldManager := some "me" }).on .empty =
      (.ok { types := some ⟨"v1", "ConfigMap"⟩ },
        ⟨.ofList [(⟨⟨"", "ConfigMap"⟩, ⟨none, ""⟩⟩, { types := some ⟨"v1", "ConfigMap"⟩ })]⟩) ∧
    ¬ (Call.list ⟨"", "v1", "ConfigMap"⟩
        { timeout := some 5, resourceVersion := some "1", versionMatch := some .exact }).Plain ∧
    ((client .defaults).list ⟨"", "v1", "ConfigMap"⟩
        { timeout := some 5, resourceVersion := some "1", versionMatch := some .exact }).on .empty =
      (.ok [], .empty) := by
  refine ⟨?_, ?_, ?_, ?_⟩
  · nofun
  · decide +kernel
  · nofun
  · decide +kernel

end Store
end Reconciler
