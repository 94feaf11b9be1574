import Reconciler.Controller.Deployments
import Reconciler.Proofs.Condition.VerdictList
import Reconciler.Proofs.Controller.Walk
import Reconciler.Proofs.Object.Received
import Reconciler.Proofs.Store.Status
/-!
The pass that marks deployments.  It replaces the conditions of each of them and nothing else.  What
it wrote is received again with the same number of replicas, so that a second pass comes to the same
verdict, finds it in the condition, and only moves the time of the last update.
-/
namespace Reconciler.Deployments

open Condition (Accessor Record Verdict)

variable {pod : PodForm}

/-- What the condition of a deployment is made to say. -/
def verdict (deployment : Deployment pod) : Verdict where
  status := (judge (available deployment)).1
  reason := (judge (available deployment)).2
  message := toString (available deployment) ++ " available replicas"

theorem updates_eq (deployment : Deployment pod) :
    updates deployment = (verdict deployment).updates := rfl

/-- The state of a deployment, blank if it has none. -/
def state (deployment : Deployment pod) : Deployment.Status :=
  deployment.status.getD Deployment.statusTable.blank

/-- The conditions of a deployment, none if it has no state. -/
def conditions (deployment : Deployment pod) : List Record :=
  (state deployment).conditions.getD []

/-- A deployment whose state can be read again when it was written. -/
def Stays (deployment : Deployment pod) : Prop :=
  (state deployment).Rereadable

/-- The state of a deployment with other conditions. -/
def stateWith (deployment : Deployment pod) (records : List Record) : Deployment.Status :=
  (state deployment).withConditions (some records)

/-- An object with another state at most. -/
structure KeepsRest (before after : Object) : Prop where
  types : after.types = before.types
  metadata : after.metadata = before.metadata
  others : ∀ name, name ≠ "status" → after.field? name = before.field? name

/-- The first condition of the type in a state as it is written, with those before and after it. -/
structure Leads (state : Json) (front : List Json) (item : Json) (back : List Json) : Prop where
  conditions : state.field? "conditions" = some (.arr (front ++ item :: back))
  first : ∀ other ∈ front, other.field? "type" ≠ some (.str conditionType)
  own : item.field? "type" = some (.str conditionType)

/-- A condition that says, as it is written, whether replicas are available, and how many. -/
structure Tells (count : Int) (item : Json) : Prop where
  status : item.field? "status" = some (.str (if 0 < count then "True" else "False"))
  reason : item.field? "reason" = some (.str (if 0 < count then "Available" else "NoReplicas"))
  message : item.field? "message" = some (.str (toString count ++ " available replicas"))

/-- A deployment with other conditions at most. -/
def KeepsState (deployment again : Deployment pod) : Prop :=
  ∃ records, again = deployment.withStatus (some ((state deployment).withConditions records))

/-- An object that was received as a deployment, and now is one whose first condition of the type
says whether it has available replicas. -/
structure Marks (scheme : Scheme) (pod : PodForm) (before after : Object) : Prop extends
    KeepsRest before after where
  verdict : ∃ deployment again written front item back,
    scheme.fromDynamic (.known (Deployment.kind pod)) before = .ok deployment ∧
    scheme.fromDynamic (.known (Deployment.kind pod)) after = .ok again ∧
    KeepsState deployment again ∧
    after.field? "status" = some written ∧ Leads written front item back ∧
    Tells (available deployment) item

/-- What one step of a pass makes of an object that it received. -/
structure Remarks (scheme : Scheme) (now : Instant) (before : Object) (deployment : Deployment pod)
    (records : List Record) (after : Object) : Prop where
  received : scheme.fromDynamic (.known (Deployment.kind pod)) before = .ok deployment
  stays : Stays deployment
  updated : ({} : Accessor).updateList now (.typed .deployment) conditionType
    (verdict deployment).updates (conditions deployment) = (.ok (), records)
  sent : after = before.setStatus (some (Deployment.statusJson (stateWith deployment records)))

/-- What a pass makes of an object that it receives. -/
def Remarked (scheme : Scheme) (pod : PodForm) (now : Instant) (before after : Object) : Prop :=
  ∃ (deployment : Deployment pod) (records : List Record),
    Remarks scheme now before deployment records after

/-- What is received after a step: a deployment that comes to the same verdict, and says it. -/
structure Returns (scheme : Scheme) (deployment : Deployment pod) (records : List Record)
    (after : Object) (again : Deployment pod) : Prop where
  received : scheme.fromDynamic (.known (Deployment.kind pod)) after = .ok again
  stays : Stays again
  keeps : KeepsState deployment again
  set : (state again).conditions = some (conditions again)
  heads : ∃ position, (verdict deployment).Heads conditionType (conditions again) position
  written : Deployment.statusJson (state again) =
    Deployment.statusJson (stateWith deployment records)

theorem keepsRest_setStatus (object : Object) (state : Option Json) :
    KeepsRest object (object.setStatus state) where
  types := rfl
  metadata := rfl
  others name hname := by rw [Object.field?_setStatus, if_neg hname]

variable {scheme : Scheme} {now later : Instant} {before after last : Object}
  {deployment again : Deployment pod} {records : List Record} {status : Deployment.Status}

theorem KeepsRest.ofObject_eq (h : KeepsRest before after) :
    ObjectRef.ofObject after = ObjectRef.ofObject before := by
  rw [ObjectRef.ofObject, ObjectRef.ofObject, ObjectKey.ofObject, ObjectKey.ofObject, Object.gvk,
    Object.gvk, h.types, h.metadata]

/-- All its conditions can be read again, too. -/
theorem Stays.all (h : Stays deployment) : ∀ record ∈ conditions deployment, record.Rereadable := by
  intro record hrecord
  cases hset : (state deployment).conditions with
  | none => simp [conditions, hset] at hrecord
  | some found =>
      refine h.conditions found hset record ?_
      rwa [conditions, hset] at hrecord

theorem field?_statusJson_conditions (hset : status.conditions = some records) :
    (Deployment.statusJson status).field? "conditions" =
      some (.arr (records.map Record.toJson)) := by
  rw [Deployment.field?_conditions, hset, Option.map_some]

/-- Where conditions say it, the first one of the type stands between others that are written before
and after it. -/
theorem exists_leads {verdict : Verdict} {position : Nat}
    (h : verdict.Heads conditionType records position) (hset : status.conditions = some records) :
    ∃ front record back, records = front ++ record :: back ∧ front.length = position ∧
      Leads (Deployment.statusJson status) (front.map Record.toJson) record.toJson
        (back.map Record.toJson) := by
  obtain ⟨front, record, back, rfl, hposition, hfront, htype⟩ :=
    Accessor.findIndexFrom_eq_some_iff.1 h.first
  have hwritten : ∀ other ∈ front ++ record :: back, ∃ type,
      other.toJson.field? "type" = some (.str type) ∧ ({} : Accessor).type other = .ok type := by
    intro other hother
    have hform := (h.all other hother).form
    obtain ⟨type, hfield, hread⟩ := Record.exists_type hform
    refine ⟨type, ?_, hread⟩
    rw [Record.field?_toJson hform, hfield]
    rfl
  refine ⟨front, record, back, rfl, by omega, ?_, ?_, ?_⟩
  · rw [field?_statusJson_conditions hset, List.map_append, List.map_cons]
  · intro item hitem
    obtain ⟨other, hother, rfl⟩ := List.mem_map.1 hitem
    obtain ⟨type, hfield, hread⟩ := hwritten other (List.mem_append_left _ hother)
    obtain ⟨own, hown, hne⟩ := hfront other hother
    rw [hread] at hown
    cases hown
    rw [hfield]
    simpa using hne
  · obtain ⟨type, hfield, hread⟩ := hwritten record (by simp)
    rw [hread] at htype
    cases htype
    exact hfield

/-- A condition that says what it should is written so. -/
theorem tells_of_told {record : Record} (h : (verdict deployment).Told record)
    (hform : record.form = .typed .deployment) : Tells (available deployment) record.toJson := by
  have hwritten : ∀ {name text : String},
      (name, .string text) ∈ (verdict deployment).assignments →
        record.toJson.field? name = some (.str text) := by
    intro name text hmem
    rw [Record.field?_toJson hform, h _ hmem]
    rfl
  have hstatus : (verdict deployment).status.name =
      if 0 < available deployment then "True" else "False" := by
    rw [verdict, judge]
    split <;> rfl
  have hreason : (verdict deployment).reason =
      if 0 < available deployment then "Available" else "NoReplicas" := by
    rw [verdict, judge]
    split <;> rfl
  constructor
  case status =>
    rw [← hstatus]
    exact hwritten (by simp [Verdict.assignments])
  case reason =>
    rw [← hreason]
    exact hwritten (by simp [Verdict.assignments])
  case message => exact hwritten (by simp [Verdict.assignments, verdict])

namespace Remarks

theorem keepsRest (h : Remarks scheme now before deployment records after) :
    KeepsRest before after :=
  h.sent ▸ keepsRest_setStatus before _

theorem field?_status (h : Remarks scheme now before deployment records after) :
    after.field? "status" = some (Deployment.statusJson (stateWith deployment records)) := by
  rw [h.sent, Object.field?_setStatus, if_pos rfl]

/-- The deployment that is sent. -/
theorem marked_eq (h : Remarks scheme now before deployment records after) :
    marked now deployment =
      .ok (deployment.withStatus (some (stateWith deployment records))) := by
  simp only [marked, Accessor.updateOptionalList_eq]
  rw [← state, ← conditions, updates_eq, h.updated]
  rfl

/-- The conditions say it after the update. -/
theorem exists_heads (h : Remarks scheme now before deployment records after)
    (hnow : now.Readable) :
    ∃ position, (verdict deployment).Heads conditionType records position := by
  obtain ⟨found, position, hupdate, hheads⟩ :=
    (verdict deployment).exists_updateList conditionType h.stays.all hnow
  have hsame := h.updated.symm.trans hupdate
  obtain rfl : records = found := congrArg Prod.snd hsame
  exact ⟨position, hheads⟩

/-- What was sent is received again. -/
theorem exists_returns (h : Remarks scheme now before deployment records after)
    (hnow : now.Readable) : ∃ again, Returns scheme deployment records after again := by
  obtain ⟨position, hheads⟩ := h.exists_heads hnow
  have hstays : (stateWith deployment records).Rereadable := by
    refine ⟨h.stays.others, fun found hfound => ?_⟩
    cases hfound
    exact hheads.all
  obtain ⟨read, hread, hgood, hsame⟩ := Deployment.exists_reread hstays
  obtain ⟨found, rfl, hwritten⟩ := Option.map_eq_some_iff.1 hsame
  have hstate : after.toJson.optional? Deployment.decodeStatus? "status" =
      some (some ((state deployment).withConditions (some found))) := by
    refine Json.optional?_eq_some_iff.2 (.inr ⟨_, _, ?_, Json.present_ne_null _, hread, rfl⟩)
    rw [h.sent, Object.field?_toJson_setStatus, if_pos rfl]
    rfl
  have hreceived := Deployment.fromDynamic_setStatus h.received hstate
  rw [h.field?_status, ← h.sent] at hreceived
  refine ⟨deployment.withStatus (some ((state deployment).withConditions (some found))), ?_⟩
  constructor
  case received => exact hreceived
  case stays => exact ⟨h.stays.others, fun records hrecords => hgood records hrecords⟩
  case keeps => exact ⟨some found, rfl⟩
  case set => rfl
  case heads => exact ⟨position, hheads.of_toJson_eq (hgood found rfl) hwritten⟩
  case written =>
    exact Deployment.statusJson_withConditions_congr (state deployment) (congrArg some hwritten)

theorem marks (h : Remarks scheme now before deployment records after) (hnow : now.Readable) :
    Marks scheme pod before after where
  toKeepsRest := h.keepsRest
  verdict := by
    obtain ⟨again, hagain⟩ := h.exists_returns hnow
    obtain ⟨position, hheads⟩ := h.exists_heads hnow
    have hset : (stateWith deployment records).conditions = some records := rfl
    obtain ⟨front, record, back, rfl, rfl, hleads⟩ := exists_leads hheads hset
    have hform := (hheads.all record (by simp)).form
    have htold := hheads.told record (by simp)
    exact ⟨deployment, again, _, _, _, _, h.received, hagain.received, hagain.keeps,
      h.field?_status, hleads, tells_of_told htold hform⟩

end Remarks

/-! The pass on a store. -/

variable {store : Store}

/-- A deployment is marked and sent, and then it is told. -/
theorem on_reconcileOne {changed value : Deployment pod} {afterwards : Store}
    (hmarked : marked now deployment = .ok changed)
    (hupdate : ((Store.client scheme).updateObjectStatus (.known (Deployment.kind pod))
      changed {}).on store = (.ok value, afterwards)) (told : List String) :
    ∃ told', (reconcileOne (Store.client scheme) now deployment).on ⟨store, told⟩ =
      (.ok (), ⟨afterwards, told'⟩) := by
  refine ⟨_, Attempt.on_bind_eq_ok.2 ⟨changed, ⟨store, told⟩, ?_,
    Attempt.on_bind_eq_ok.2 ⟨(), ⟨afterwards, told⟩, ?_, Pass.on_tell _ _⟩⟩⟩
  · refine (Attempt.on_ofExcept _ _).trans ?_
    rw [hmarked]
    rfl
  · exact Pass.on_discard_doing hupdate told

/-- A step goes through for every deployment whose state can be read again. -/
theorem steps
    (hregistered :
      scheme.registered (.known (Deployment.kind pod)) = some (Deployment.kind pod).gvk)
    (hnow : now.Readable) :
    Store.Steps scheme (.known (Deployment.kind pod)) (reconcileOne (Store.client scheme) now) Stays
      (Remarked scheme pod now) := by
  intro object deployment hreceived hstays store reference told hreference hstored
  obtain ⟨records, position, hupdate, -⟩ :=
    (verdict deployment).exists_updateList conditionType hstays.all hnow
  have hremarks : Remarks scheme now object deployment records
      (object.setStatus (some (Deployment.statusJson (stateWith deployment records)))) :=
    ⟨hreceived, hstays, hupdate, rfl⟩
  obtain ⟨dynamic, hto, hstatus, hsame⟩ :=
    Deployment.exists_sent hregistered hreceived (stateWith deployment records)
  have hwrites := Store.writesStatus scheme (hsame.trans hreference) hstored
  rw [hstatus] at hwrites
  obtain ⟨again, hagain⟩ := hremarks.exists_returns hnow
  obtain ⟨told', hstep⟩ :=
    on_reconcileOne hremarks.marked_eq (Store.on_exchange hto hwrites.succeeds hagain.received) told
  exact ⟨_, _, told', hstep, ⟨deployment, records, hremarks⟩, Store.puts_insert store reference _⟩

end Reconciler.Deployments
