import Reconciler.Condition.Accessor
/-!
Updates of a condition.  A list of updates is applied in order; unless timestamp updates are
disabled, the time of the last transition then moves to the present if the condition transitioned
between the first and the last of them, and the time of the last update moves there always.
-/
namespace Reconciler.Condition

/-- A change of one condition. -/
inductive Update where
  | status (status : Status)
  | reason (reason : String)
  | message (message : String)
  | observedGeneration (generation : Int)
  /-- Take over status, reason, message and, if there is one, the observed generation of another
  condition, which `reader` reads, or else the accessor that updates. -/
  | copy (reader : Option Accessor) (source : Record)
  /-- Apply updates and then maintain the timestamps by a transition and a time of their own. -/
  | timestamps (transition : Transition) (now : Instant) (updates : List Update)

namespace Transition

/-- The fields of the parts that count, in the order status, reason, message. -/
def fields (transition : Transition) (names : FieldNames) : List String :=
  ([(transition.status, names.status), (transition.reason, names.reason),
    (transition.message, names.message)].filter (·.1)).map (·.2)

/-- The texts of the parts that count; unset is empty. -/
def values (transition : Transition) (names : FieldNames) (record : Record) :
    Except AccessError (List String) :=
  (transition.fields names).mapM fun field =>
    (record.read field .optionalString).map FieldValue.text

end Transition

/-- Run an edit and maintain the timestamps afterwards. -/
def Edit.stamped (names : FieldNames) (transition : Transition) (now : Instant)
    (edit : Edit Unit) : Edit Unit := do
  let before ← Edit.reading (transition.values names)
  edit
  let after ← Edit.reading (transition.values names)
  if after ≠ before then Edit.assignIfExists names.lastTransitionTime (.time now)
  Edit.assignIfExists names.lastUpdateTime (.time now)

/-- Take over the state of another condition. -/
def Edit.copying (reader writer : Accessor) (source : Record) : Edit Unit := do
  writer.setStatus (← Attempt.ofExcept (reader.status source))
  writer.setReason (← Attempt.ofExcept (reader.reason source))
  writer.setMessage (← Attempt.ofExcept (reader.message source))
  if ← Attempt.ofExcept (reader.hasObservedGeneration source) then
    writer.setObservedGeneration
      (← Attempt.ofExcept (reader.observedGeneration source))

mutual

/-- Apply one update. -/
def Update.apply (accessor : Accessor) : Update → Edit Unit
  | .status value => accessor.setStatus value
  | .reason text => accessor.setReason text
  | .message text => accessor.setMessage text
  | .observedGeneration generation => accessor.setObservedGeneration generation
  | .copy reader source => Edit.copying (reader.getD accessor) accessor source
  | .timestamps transition now updates =>
    Edit.stamped accessor.names transition now (Update.applyAll accessor updates)

/-- Apply updates in order. -/
def Update.applyAll (accessor : Accessor) : List Update → Edit Unit
  | [] => pure ()
  | update :: rest => do
    Update.apply accessor update
    Update.applyAll accessor rest

end

/-- The update of the observed generation to an object's generation, zero if it has none. -/
def Update.observed (generation : Option Int) : Update :=
  .observedGeneration (generation.getD 0)

namespace Accessor

/-- Apply updates to a condition at a time. -/
def update (accessor : Accessor) (now : Instant) (updates : List Update) : Edit Unit :=
  if accessor.disableTimestampUpdates then Update.applyAll accessor updates
  else Edit.stamped accessor.names accessor.transition now (Update.applyAll accessor updates)

end Accessor

end Reconciler.Condition
