import Reconciler.Condition.Part
import Reconciler.Json.Lenient
import Reconciler.Object.Basic
/-!
Accessors and updates in JSON form.
-/
namespace Reconciler.Condition

/-- The transition with settings; only the status counts if nothing is set. -/
def Transition.ofJson (json : Json) : Transition :=
  { status := (json.get "status").asBool?.getD true
    reason := json.flag "reason"
    message := json.flag "message" }

/-- The accessor with settings; a part whose name is not set is stored under its own. -/
def Accessor.ofJson (json : Json) : Accessor :=
  let name (part : Part) : String := ((json.get "fields").text? part.name).getD part.name
  { names := {
      type := name .type
      status := name .status
      lastUpdateTime := name .lastUpdateTime
      lastTransitionTime := name .lastTransitionTime
      reason := name .reason
      message := name .message
      observedGeneration := name .observedGeneration }
    transition := .ofJson (json.get "transition")
    disableTimestampUpdates := json.flag "disableTimestampUpdates" }

/-- The kind of records with a name. -/
def RecordKind.ofName? (name : String) : Option RecordKind :=
  if name = "json" then some .json
  else if name = "map" then some .map
  else (ConditionType.ofName? name).map .typed

/-- Why a JSON value is no update. -/
inductive UpdateFormError where
  | badStatus
  /-- An object or a record in it is malformed. -/
  | malformed
  | unknown
deriving DecidableEq, Repr

namespace Update

/-- The update in a JSON object with one field that sets a part. -/
def setting? (json : Json) : Option (Except UpdateFormError Update) :=
  match json.field? "status", json.text? "reason", json.text? "message",
      json.int? "observedGeneration" with
  | some value, _, _, _ =>
    match PartValue.ofJson? .status value with
    | some (.status found) => some (.ok (.status found))
    | _ => some (.error .badStatus)
  | none, some text, _, _ => some (.ok (.reason text))
  | none, none, some text, _ => some (.ok (.message text))
  | none, none, none, some number => some (.ok (.observedGeneration number))
  | none, none, none, none => none

/-- The update in a JSON object that takes values from another one. -/
def taking? (json : Json) : Option (Except UpdateFormError Update) :=
  match json.field? "observed", json.field? "from" with
  | some object, _ =>
    match Object.decode? object with
    | some object => some (.ok (.observed object.metadata.generation))
    | none => some (.error .malformed)
  | none, some source =>
    match Record.decode? ((RecordKind.ofName? (json.text "fromRecord")).getD .json) source with
    | some record => some (.ok (.copy ((json.field? "accessor").map .ofJson) record))
    | none => some (.error .malformed)
  | none, none => none

mutual

/-- The update in a JSON object.  A list of updates may have timestamps of its own, at `start` if
no time is set; `depth` bounds how deep such lists are nested. -/
def ofJson (start : Instant) : Nat → Json → Except UpdateFormError Update
  | 0, _ => .error .unknown
  | depth + 1, json =>
    match setting? json, taking? json with
    | some update, _ => update
    | none, some update => update
    | none, none =>
      if (json.field? "timestamps").isSome then do
        let now := ((json.text? "clock").bind Rfc3339.parse?).getD start
        return .timestamps (.ofJson (json.get "transition")) now
          (← ofJsonList start depth (json.items "timestamps"))
      else .error .unknown

/-- The updates in JSON objects. -/
def ofJsonList (start : Instant) : Nat → List Json → Except UpdateFormError (List Update)
  | _, [] => .ok []
  | depth, json :: rest => do
    return (← ofJson start depth json) :: (← ofJsonList start depth rest)

end

end Update

end Reconciler.Condition
