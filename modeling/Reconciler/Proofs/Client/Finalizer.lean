import Mathlib
import Reconciler.Client.Finalizer
import Reconciler.Client.FinalizerPatcher
import Reconciler.Proofs.Json.RoundTrip
/-!
Finalizers that are set and removed with patches.  A patch is sent exactly if it changes whether the
finalizer is set, and the object at hand then has the finalizers that it would have if they were
changed in place.  If the patch fails, the object at hand stays as it was.
-/
namespace Reconciler

/-- What an object should have of one finalizer. -/
inductive FinalizerCall where
  | add (name : String)
  | remove (name : String)
deriving DecidableEq

namespace FinalizerCall

variable {σ : Type} {call : FinalizerCall} {calls : List FinalizerCall} {names : List String}
  {metadata other : ObjectMeta}

/-- The finalizer that it is about. -/
def name : FinalizerCall → String
  | add name | remove name => name

/-- Done in the metadata of an object: whether they were changed, and the result. -/
def edit : FinalizerCall → ObjectMeta → Bool × ObjectMeta
  | add name, metadata => metadata.addFinalizer name
  | remove name, metadata => metadata.removeFinalizer name

/-- Done with a patch if need be: whether one was sent. -/
def patch (client : Client σ) : FinalizerCall → Action (AtHand σ) Bool
  | add name => AtHand.patchEnsureFinalizer client name
  | remove name => AtHand.patchEnsureNoFinalizer client name

/-- Several calls with patches, one after another: for which of them one was sent. -/
def patchAll (client : Client σ) (calls : List FinalizerCall) : Action (AtHand σ) (List Bool) :=
  calls.mapM fun call => call.patch client

/-- Whether finalizers are not yet as they should be. -/
def Needed : FinalizerCall → List String → Prop
  | add name, names => name ∉ names
  | remove name, names => name ∈ names

instance (call : FinalizerCall) (names : List String) : Decidable (call.Needed names) :=
  match call with
  | add name => inferInstanceAs (Decidable (name ∉ names))
  | remove name => inferInstanceAs (Decidable (name ∈ names))

/-- The finalizers as they should be. -/
def result : FinalizerCall → List String → List String
  | add name, names => if name ∈ names then names else names ++ [name]
  | remove name, names => names.filter (· ≠ name)

/-! What becomes of the finalizers. -/

/-- It is needed exactly if it changes whether the finalizer is set. -/
theorem needed_iff : call.Needed names ↔ (call.name ∈ names ↔ call.name ∉ call.result names) := by
  cases call with
  | add name => by_cases hmem : name ∈ names <;> simp [Needed, FinalizerCall.name, result, hmem]
  | remove name => simp [Needed, FinalizerCall.name, result]

theorem result_of_not_needed (h : ¬ call.Needed names) : call.result names = names := by
  cases call with
  | add name => exact if_pos (not_not.1 h)
  | remove name =>
      apply List.filter_eq_self.2
      intro other hother
      have hne : other ≠ name := fun hsame => h (hsame ▸ hother)
      simpa using hne

theorem filter_result (keep : String → Bool) (h : keep call.name = false) :
    (call.result names).filter keep = names.filter keep := by
  cases call with
  | add name =>
      have hname : keep name = false := h
      by_cases hmem : name ∈ names
      · rw [result, if_pos hmem]
      · rw [result, if_neg hmem, List.filter_append]
        simp [hname]
  | remove name =>
      have hname : keep name = false := h
      rw [result, List.filter_filter]
      apply List.filter_congr
      intro other _
      by_cases hsame : other = name <;> simp [hsame, hname]

theorem nodup_result (h : names.Nodup) : (call.result names).Nodup := by
  cases call with
  | add name =>
      by_cases hmem : name ∈ names
      · rw [result, if_pos hmem]
        exact h
      · rw [result, if_neg hmem]
        exact h.append (List.nodup_singleton name) (by simpa using hmem)
  | remove name => exact h.filter _

/-- A finalizer that was added is there once, unless it was repeated. -/
theorem count_result_add (name : String) (names : List String) :
    ((add name).result names).count name = max 1 (names.count name) := by
  by_cases hmem : name ∈ names
  · rw [result, if_pos hmem]
    exact (max_eq_right (List.count_pos_iff.2 hmem)).symm
  · rw [result, if_neg hmem, List.count_append, List.count_eq_zero.2 hmem]
    simp

/-! The finalizers changed in place. -/

theorem edit_changed (call : FinalizerCall) (metadata : ObjectMeta) :
    (call.edit metadata).1 = decide (call.Needed metadata.finalizerList) := by
  cases call with
  | add name =>
      by_cases hmem : name ∈ metadata.finalizerList <;>
        simp [edit, ObjectMeta.addFinalizer, ObjectMeta.hasFinalizer, Needed, hmem]
  | remove name =>
      have hlength : (metadata.finalizerList.filter (· ≠ name)).length ≠
          metadata.finalizerList.length ↔ name ∈ metadata.finalizerList := by
        rw [ne_eq, List.length_filter_eq_length_iff]
        simp
      exact decide_eq_decide.2 hlength

theorem edit_finalizerList (call : FinalizerCall) (metadata : ObjectMeta) :
    (call.edit metadata).2.finalizerList = call.result metadata.finalizerList := by
  cases call with
  | add name =>
      by_cases hmem : name ∈ metadata.finalizerList
      · simp [edit, ObjectMeta.addFinalizer, ObjectMeta.hasFinalizer, result, hmem]
      · have hset : (edit (add name) metadata).2 =
            { metadata with finalizers := some (metadata.finalizerList ++ [name]) } := by
          simp [edit, ObjectMeta.addFinalizer, ObjectMeta.hasFinalizer, hmem]
        rw [hset, result, if_neg hmem]
        rfl
  | remove name => rfl

/-- Several calls in place, one after another: which of them changed something, and the result. -/
def editAll : List FinalizerCall → ObjectMeta → List Bool × ObjectMeta
  | [], metadata => ([], metadata)
  | call :: calls, metadata =>
    let (changed, next) := call.edit metadata
    let (rest, last) := editAll calls next
    (changed :: rest, last)

/-- Only the finalizers matter, and unset ones are none. -/
theorem editAll_congr (calls : List FinalizerCall)
    (h : metadata.finalizerList = other.finalizerList) :
    (editAll calls metadata).1 = (editAll calls other).1 ∧
      (editAll calls metadata).2.finalizerList = (editAll calls other).2.finalizerList := by
  induction calls generalizing metadata other with
  | nil => exact ⟨rfl, h⟩
  | cons call rest ih =>
      have hchanged : (call.edit metadata).1 = (call.edit other).1 := by
        rw [edit_changed, edit_changed, h]
      have hnext : (call.edit metadata).2.finalizerList = (call.edit other).2.finalizerList := by
        rw [edit_finalizerList, edit_finalizerList, h]
      obtain ⟨hanswers, hlast⟩ := ih hnext
      exact ⟨congrArg₂ List.cons hchanged hanswers, hlast⟩

/-! The finalizers patched. -/

theorem on_request {α : Type} (action : Action σ α) (hand : AtHand σ) :
    (AtHand.request action).on hand =
      ((action.on hand.state).1, { hand with state := (action.on hand.state).2 }) := rfl

theorem on_patchFinalizers (client : Client σ) (hand : AtHand σ) :
    (AtHand.patchFinalizers client names).on hand =
      match (client.patch hand.object (finalizerPatch hand.object names) {}).on hand.state with
      | (.ok object, next) => (.ok (), ⟨next, object⟩)
      | (.error error, next) =>
        (.error (.object "patching finalizers of" (.ofObject hand.object) error),
          ⟨next, hand.object⟩) := by
  rw [AtHand.patchFinalizers, Attempt.on_bind, Attempt.on_get]
  simp only
  rw [Attempt.on_bind, on_request, Action.on_forObject]
  cases (client.patch hand.object (finalizerPatch hand.object names) {}).on hand.state with
  | mk result next => cases result <;> rfl

/-- A call that is not needed does not reach the client. -/
theorem on_patch_of_not_needed (client : Client σ) {hand : AtHand σ}
    (h : ¬ call.Needed hand.object.metadata.finalizerList) :
    (call.patch client).on hand = (.ok false, hand) := by
  cases call with
  | add name =>
      have hset : hand.object.metadata.hasFinalizer name = true := by
        simpa [ObjectMeta.hasFinalizer, Needed] using h
      rw [patch, AtHand.patchEnsureFinalizer, Attempt.on_bind, Attempt.on_get]
      simp [hset]
  | remove name =>
      have hunset : hand.object.metadata.hasFinalizer name = false := by
        simpa [ObjectMeta.hasFinalizer, Needed] using h
      rw [patch, AtHand.patchEnsureNoFinalizer, Attempt.on_bind, Attempt.on_get]
      simp [hunset]

/-- A call that is needed is a patch to the finalizers as they should be. -/
theorem on_patch_of_needed (client : Client σ) {hand : AtHand σ}
    (h : call.Needed hand.object.metadata.finalizerList) :
    (call.patch client).on hand =
      match (client.patch hand.object (finalizerPatch hand.object
        (call.result hand.object.metadata.finalizerList)) {}).on hand.state with
      | (.ok object, next) => (.ok true, ⟨next, object⟩)
      | (.error error, next) =>
        (.error (.object "patching finalizers of" (.ofObject hand.object) error),
          ⟨next, hand.object⟩) := by
  have hpatch : (call.patch client).on hand =
      ((fun _ => true) <$> AtHand.patchFinalizers client
        (call.result hand.object.metadata.finalizerList)).on hand := by
    cases call with
    | add name =>
        have hmem : name ∉ hand.object.metadata.finalizerList := h
        have hunset : hand.object.metadata.hasFinalizer name = false := by
          simpa [ObjectMeta.hasFinalizer] using hmem
        rw [patch, AtHand.patchEnsureFinalizer, Attempt.on_bind, Attempt.on_get, result,
          if_neg hmem, map_eq_pure_bind]
        simp only [hunset]
        rfl
    | remove name =>
        have hmem : name ∈ hand.object.metadata.finalizerList := h
        have hset : hand.object.metadata.hasFinalizer name = true := by
          simpa [ObjectMeta.hasFinalizer] using hmem
        rw [patch, AtHand.patchEnsureNoFinalizer, Attempt.on_bind, Attempt.on_get, result,
          map_eq_pure_bind]
        simp only [hset]
        rfl
  rw [hpatch, Attempt.on_map, on_patchFinalizers]
  rcases (client.patch hand.object (finalizerPatch hand.object
    (call.result hand.object.metadata.finalizerList)) {}).on hand.state with ⟨error | object, next⟩
  · rfl
  · rfl

/-! A client for which nobody else changes the object. -/

/-- What a patch of finalizers says: the finalizers, and the version that it is made for. -/
def body (finalizers : List String) (version : Option String) : Json :=
  .obj [("metadata", .obj [("finalizers", .arr (finalizers.map .str)),
    ("resourceVersion", (version.map Json.str).getD .null)])]

/-- The object with other finalizers. -/
def withFinalizers (object : Object) (finalizers : List String) : Object :=
  { object with metadata := { object.metadata with finalizers := some finalizers } }

theorem metadataField?_body (names : List String) (version : Option String) :
    FinalizerPatcher.metadataField? (.merge (body names version)) "finalizers" =
      some (.strings names) := by
  simp [FinalizerPatcher.metadataField?, Patch.body, body, Json.field?, Json.strings, Entries.get?]

theorem obliging_patch (scheme : Scheme) (object : Object) (change : Patch)
    (params : PatchParams) :
    (FinalizerPatcher.obliging scheme).patch object change params =
      (do
        let object ← Attempt.ofExcept (FinalizerPatcher.patched object change)
        modify (· ++ [change.body])
        return object : Action (List Json) Object) := rfl

theorem on_obliging (scheme : Scheme) (object : Object) (names : List String) (log : List Json) :
    ((FinalizerPatcher.obliging scheme).patch object (finalizerPatch object names) {}).on log =
      (.ok (withFinalizers object names),
        log ++ [body names object.metadata.resourceVersion]) := by
  have hread := Json.asList?_strings names
  have hpatched : FinalizerPatcher.patched object (finalizerPatch object names) =
      .ok (withFinalizers object names) := by
    have hpatch : finalizerPatch object names =
        .merge (body names object.metadata.resourceVersion) := rfl
    rw [hpatch, FinalizerPatcher.patched, metadataField?_body, Option.bind_some, hread]
    rfl
  rw [obliging_patch, hpatched]
  rfl

/-! Each call and all calls. -/

/-- What a call does against a client for which nobody else changes the object. -/
structure Ensures (call : FinalizerCall) (before : AtHand (List Json)) (sent : Bool)
    (after : AtHand (List Json)) : Prop where
  /-- A patch is sent exactly if it changes whether the finalizer is set. -/
  sent_iff : sent = true ↔
    (call.name ∈ before.object.metadata.finalizerList ↔
      call.name ∉ after.object.metadata.finalizerList)
  /-- The patch has the new finalizers and the version of the object at hand. -/
  log : after.state = before.state ++
    if sent then
      [body after.object.metadata.finalizerList before.object.metadata.resourceVersion]
    else []
  edits : sent = (call.edit before.object.metadata).1 ∧
    after.object.metadata.finalizerList = (call.edit before.object.metadata).2.finalizerList
  others : after.object.metadata.finalizerList.filter (· ≠ call.name) =
    before.object.metadata.finalizerList.filter (· ≠ call.name)
  nodup : before.object.metadata.finalizerList.Nodup →
    after.object.metadata.finalizerList.Nodup
  rest : ∃ finalizers, after.object =
    { before.object with metadata := { before.object.metadata with finalizers } }

/-- One call: it is the pure change, and it is logged exactly if there is something to change. -/
theorem patch_ensures (scheme : Scheme) (call : FinalizerCall) (before : AtHand (List Json)) :
    ∃ sent after, (call.patch (FinalizerPatcher.obliging scheme)).on before = (.ok sent, after) ∧
      call.Ensures before sent after := by
  have hchanged := edit_changed call before.object.metadata
  have hlist := edit_finalizerList call before.object.metadata
  by_cases hneeded : call.Needed before.object.metadata.finalizerList
  · have hpatch := on_patch_of_needed (FinalizerPatcher.obliging scheme) hneeded
    rw [on_obliging] at hpatch
    refine ⟨true, _, hpatch, ?_⟩
    constructor
    · exact iff_of_true rfl (needed_iff.1 hneeded)
    · rfl
    · rw [hchanged, hlist]
      exact ⟨(decide_eq_true hneeded).symm, rfl⟩
    · exact filter_result _ (by simp)
    · exact nodup_result
    · exact ⟨_, rfl⟩
  · have hsame := result_of_not_needed hneeded
    refine ⟨false, before, on_patch_of_not_needed _ hneeded, ?_⟩
    constructor
    · rw [needed_iff, hsame] at hneeded
      exact iff_of_false Bool.false_ne_true hneeded
    · simp
    · rw [hchanged, hlist, hsame]
      exact ⟨(decide_eq_false hneeded).symm, rfl⟩
    · rfl
    · exact id
    · exact ⟨_, rfl⟩

/-- What a sequence of calls does. -/
structure EnsuresAll (calls : List FinalizerCall) (before : AtHand (List Json)) (sent : List Bool)
    (after : AtHand (List Json)) : Prop where
  edits : sent = (editAll calls before.object.metadata).1 ∧
    after.object.metadata.finalizerList =
      (editAll calls before.object.metadata).2.finalizerList
  log : ∃ bodies, after.state = before.state ++ bodies ∧ bodies.length = sent.count true
  /-- The finalizers that no call is about stay in their order. -/
  others :
    after.object.metadata.finalizerList.filter (fun name => ∀ call ∈ calls, name ≠ call.name) =
      before.object.metadata.finalizerList.filter fun name => ∀ call ∈ calls, name ≠ call.name
  nodup : before.object.metadata.finalizerList.Nodup →
    after.object.metadata.finalizerList.Nodup
  rest : ∃ finalizers, after.object =
    { before.object with metadata := { before.object.metadata with finalizers } }

theorem EnsuresAll.nil (hand : AtHand (List Json)) : EnsuresAll [] hand [] hand where
  edits := ⟨rfl, rfl⟩
  log := ⟨[], by simp, rfl⟩
  others := rfl
  nodup := id
  rest := ⟨_, rfl⟩

theorem EnsuresAll.cons {before middle after : AtHand (List Json)} {sent : Bool}
    {answers : List Bool} (head : call.Ensures before sent middle)
    (tail : EnsuresAll calls middle answers after) :
    EnsuresAll (call :: calls) before (sent :: answers) after := by
  constructor
  · obtain ⟨hsent, hmiddle⟩ := head.edits
    obtain ⟨hanswers, hafter⟩ := tail.edits
    obtain ⟨hsame, hlast⟩ := editAll_congr calls hmiddle
    constructor
    · rw [hsent, hanswers, hsame]
      rfl
    · rw [hafter, hlast]
      rfl
  · obtain ⟨bodies, hbodies, hlength⟩ := tail.log
    rw [hbodies, head.log, List.append_assoc]
    refine ⟨_, rfl, ?_⟩
    cases sent <;> simp [hlength]
  · have hfirst : ∀ names : List String,
        names.filter (fun name => ∀ other ∈ call :: calls, name ≠ other.name) =
          (names.filter fun name => ∀ other ∈ calls, name ≠ other.name).filter
            (· ≠ call.name) := by
      intro names
      rw [List.filter_filter]
      apply List.filter_congr
      intro name _
      simp
    have hcommute : ∀ names : List String,
        (names.filter fun name => ∀ other ∈ calls, name ≠ other.name).filter (· ≠ call.name) =
          (names.filter (· ≠ call.name)).filter fun name => ∀ other ∈ calls, name ≠ other.name := by
      intro names
      exact List.filter_comm ..
    rw [hfirst, hfirst, tail.others, hcommute, hcommute, head.others]
  · intro hnodup
    exact tail.nodup (head.nodup hnodup)
  · obtain ⟨middles, hmiddle⟩ := head.rest
    obtain ⟨finalizers, hafter⟩ := tail.rest
    refine ⟨finalizers, ?_⟩
    rw [hafter, hmiddle]

/-- Any sequence of calls succeeds, and does what its calls do in place. -/
theorem patchAll_ensures (scheme : Scheme) (calls : List FinalizerCall)
    (before : AtHand (List Json)) :
    ∃ sent after, (patchAll (FinalizerPatcher.obliging scheme) calls).on before =
        (.ok sent, after) ∧ EnsuresAll calls before sent after := by
  induction calls generalizing before with
  | nil => exact ⟨[], before, rfl, .nil before⟩
  | cons call rest ih =>
      obtain ⟨sent, middle, hpatch, hensures⟩ := patch_ensures scheme call before
      obtain ⟨answers, after, hrest, hall⟩ := ih middle
      refine ⟨sent :: answers, after, ?_, .cons hensures hall⟩
      rw [patchAll] at hrest
      rw [patchAll, List.mapM_cons, Attempt.on_bind, hpatch]
      simp only
      rw [Attempt.on_bind, hrest]
      rfl

/-- Finalizers are patched exactly when they are not yet as they should be, call by call and over
any sequence of calls, with the result of changing them in place.  Whatever the client is, a call
with nothing to change does not reach it, and one whose patch fails names the object and leaves it
as it was. -/
theorem patches_exactly_when_needed (scheme : Scheme) :
    (∀ (call : FinalizerCall) (before : AtHand (List Json)), ∃ sent after,
      (call.patch (FinalizerPatcher.obliging scheme)).on before = (.ok sent, after) ∧
        call.Ensures before sent after) ∧
    (∀ (calls : List FinalizerCall) (before : AtHand (List Json)), ∃ sent after,
      (patchAll (FinalizerPatcher.obliging scheme) calls).on before = (.ok sent, after) ∧
        EnsuresAll calls before sent after) ∧
    ∀ {σ : Type} (client : Client σ) (call : FinalizerCall) (hand : AtHand σ),
      (¬ call.Needed hand.object.metadata.finalizerList →
        (call.patch client).on hand = (.ok false, hand)) ∧
      ∀ error next, call.Needed hand.object.metadata.finalizerList →
        (client.patch hand.object (finalizerPatch hand.object
          (call.result hand.object.metadata.finalizerList)) {}).on hand.state =
            (.error error, next) →
        (call.patch client).on hand =
          (.error (.object "patching finalizers of" (.ofObject hand.object) error),
            ⟨next, hand.object⟩) := by
  refine ⟨patch_ensures scheme, patchAll_ensures scheme, ?_⟩
  intro σ client call hand
  constructor
  · exact on_patch_of_not_needed client
  · intro error next hneeded hfails
    rw [on_patch_of_needed client hneeded, hfails]

/-- An object that was changed meanwhile. -/
def outdated : Object :=
  { metadata :=
      { name := some "cm"
        namespaceName := some "default"
        resourceVersion := some FinalizerPatcher.conflictingVersion } }

/-- The finalizer of an object that was changed meanwhile is not set; without such a change it is,
and is gone when it is removed. -/
theorem patches_exactly_when_needed_outdated :
    ((add "a").patch (FinalizerPatcher.client .defaults)).on ⟨[], outdated⟩ =
      (.error (.object "patching finalizers of" ⟨some "default", "cm"⟩
        (.api (.status ⟨"Failure", "changed", "Conflict", 409⟩))),
        ⟨[finalizerPatch outdated ["a"]], outdated⟩) ∧
    ∃ after, (patchAll (FinalizerPatcher.obliging .defaults)
        [add "a", add "a", remove "a", remove "a"]).on ⟨[], outdated⟩ =
        (.ok [true, false, true, false], after) ∧
      after.object.metadata.finalizerList = [] := by
  obtain ⟨-, hall, hfailing⟩ := patches_exactly_when_needed .defaults
  constructor
  · exact (hfailing (FinalizerPatcher.client .defaults) (add "a") ⟨[], outdated⟩).2 _ _
      (by decide) rfl
  · obtain ⟨sent, after, hpatch, hensures⟩ :=
      hall [add "a", add "a", remove "a", remove "a"] ⟨[], outdated⟩
    obtain ⟨hsent, hlist⟩ := hensures.edits
    have hanswers : sent = [true, false, true, false] := hsent.trans (by decide)
    rw [hanswers] at hpatch
    exact ⟨after, hpatch, hlist.trans (by decide)⟩

end FinalizerCall

end Reconciler
