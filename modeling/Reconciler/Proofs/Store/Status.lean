import Reconciler.Proofs.Object.Status
import Reconciler.Proofs.Store.Batch
/-!
Updates of the status alone.  Such an update takes the status from the object that is sent, and
everything else from the object that is kept, whatever else is sent and in whatever version.  It is
settled by the first time, and what an earlier update wrote does not show after a later one.
-/
namespace Reconciler.Store

variable {scheme : Scheme} {store after : Store} {reference : ObjectRef}
  {stored object answer : Object}

/-- An object was sent for its status: the object that is kept took it, and nothing else in the
store changed. -/
structure WritesStatus (scheme : Scheme) (store : Store) (reference : ObjectRef)
    (stored object answer : Object) (after : Store) : Prop where
  succeeds : ((client scheme).updateStatus object {}).on store = (.ok answer, after)
  takes : stored.TakesStatus object answer
  kept : after.entries.get? reference = some answer
  others : ∀ other, other ≠ reference → after.entries.get? other = store.entries.get? other

/-- What two updates left, compared with what the later one would have left alone. -/
structure Overrides (stored both alone : Object) (afterBoth afterAlone : Store) : Prop where
  types : both.types = alone.types
  metadata : both.metadata = alone.metadata
  fields : ∀ name, both.field? name = alone.field? name
  json : both.toJson = alone.toJson
  /-- An object without data keeps the data that a status gave it when the status is removed; data
  without fields are not written. -/
  same : both = alone ∧ afterBoth = afterAlone ∨
    stored.data = none ∧ both.data = some .empty ∧ alone.data = none

theorem writesStatus (scheme : Scheme)
    (hreference : ObjectRef.ofObject object = .ok reference)
    (hstored : store.entries.get? reference = some stored) :
    WritesStatus scheme store reference stored object
      (stored.setStatus (object.field? "status"))
      ⟨store.entries.insert reference (stored.setStatus (object.field? "status"))⟩ where
  succeeds := updateStatus_ok_iff.2
    ⟨⟨rfl, rfl⟩, reference, hreference, stored, hstored, rfl, rfl⟩
  takes := Object.takesStatus_iff.2 rfl
  kept := by rw [get?_insert, if_pos rfl]
  others other hother := by rw [get?_insert, if_neg hother]

theorem overrides (store : Store) (reference : ObjectRef) (stored : Object)
    (first second : Option Json) :
    Overrides stored ((stored.setStatus first).setStatus second) (stored.setStatus second)
      ⟨(store.entries.insert reference (stored.setStatus first)).insert reference
        ((stored.setStatus first).setStatus second)⟩
      ⟨store.entries.insert reference (stored.setStatus second)⟩ where
  types := rfl
  metadata := rfl
  fields := Object.field?_setStatus_setStatus stored first second
  json := Object.toJson_congr rfl rfl (Object.field?_setStatus_setStatus stored first second)
  same := by
    rcases Object.setStatus_setStatus stored first second with hsame | hempty
    · left
      rw [SortedMap.insert_insert, hsame]
      exact ⟨rfl, rfl⟩
    · exact .inr hempty

/-- Whatever is sent for its status for an object that is kept: the object takes the status and
nothing else changes, sending it once more changes nothing at all, and what is sent later for the
same object overrides it. -/
theorem updateStatus_writes_status
    (hreference : ObjectRef.ofTyped scheme .dynamic object = .ok reference)
    (hstored : store.entries.get? reference = some stored) :
    ∃ answer after, WritesStatus scheme store reference stored object answer after ∧
      ((client scheme).updateStatus object {}).on after = (.ok answer, after) ∧
      ∀ later, ObjectRef.ofTyped scheme .dynamic later = .ok reference →
        ∃ both alone afterBoth afterAlone,
          WritesStatus scheme after reference answer later both afterBoth ∧
          WritesStatus scheme store reference stored later alone afterAlone ∧
          Overrides stored both alone afterBoth afterAlone := by
  have hwrites := writesStatus scheme hreference hstored
  refine ⟨_, _, hwrites, ?_, ?_⟩
  · have hagain := (writesStatus scheme hreference hwrites.kept).succeeds
    rw [SortedMap.insert_insert, Object.setStatus_setStatus_self] at hagain
    exact hagain
  · intro later hlater
    refine ⟨_, _, _, _, writesStatus scheme hlater hwrites.kept,
      writesStatus scheme hlater hstored, ?_⟩
    exact overrides store reference stored _ _

/-- A deployment in a version, with data or without. -/
def web (version : String) (data : Option ObjectData) : Object :=
  { types := some ⟨"apps/" ++ version, "Deployment"⟩
    metadata := { name := some "web", labels := some (.ofList [("tier", version)]) }
    data }

/-- Where the deployment is kept. -/
def webReference : ObjectRef :=
  ⟨⟨"apps", "Deployment"⟩, ⟨none, "web"⟩⟩

/-- A deployment without data takes the status null from one of another version, and no spec. -/
theorem updateStatus_writes_status_web :
    ∃ answer after,
      WritesStatus .defaults ⟨.ofList [(webReference, web "v1beta1" none)]⟩ webReference
        (web "v1beta1" none)
        (web "v1" (some (.ofFields [("spec", .str "large"), ("status", .null)]))) answer after ∧
      answer = web "v1beta1" (some (.ofFields [("status", .null)])) := by
  have hreference : ObjectRef.ofTyped .defaults .dynamic
      (web "v1" (some (.ofFields [("spec", .str "large"), ("status", .null)]))) =
        .ok webReference := by decide +kernel
  have hstored : (⟨.ofList [(webReference, web "v1beta1" none)]⟩ : Store).entries.get?
      webReference = some (web "v1beta1" none) := by decide +kernel
  obtain ⟨answer, after, hwrites, -, -⟩ := updateStatus_writes_status hreference hstored
  refine ⟨answer, after, hwrites, ?_⟩
  rw [Object.takesStatus_iff.1 hwrites.takes]
  decide +kernel

end Reconciler.Store
