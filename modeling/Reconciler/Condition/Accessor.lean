import Reconciler.Attempt
import Reconciler.Condition.Record
/-!
Reading and writing the parts of a condition.  An accessor knows by which names records store the
parts; reading and writing go through the record's own field types.  A read that fails says why,
and a write that fails leaves the record as it was.
-/
namespace Reconciler.Condition

/-- Why a part of a condition cannot be read or written. -/
inductive AccessError where
  | notARecord (field typeName : String)
  | missingField (field typeName : String)
  | convert (field typeName expected found : String)
  /-- An error at a position of a list. -/
  | index (position : Nat) (source : AccessError)
deriving DecidableEq, Repr

namespace AccessError

/-- The text of an error. -/
def message : AccessError → String
  | .notARecord field typeName =>
    "cannot access field " ++ field ++ ": " ++ typeName ++ " is not a record"
  | .missingField field typeName => typeName ++ " has no field " ++ field
  | .convert field typeName expected found =>
    "field " ++ field ++ " of " ++ typeName ++ ": expected " ++ expected ++ ", got " ++ found
  | .index position source => "[index " ++ toString position ++ "]: " ++ source.message

end AccessError

/-- The names under which records store the parts of a condition. -/
structure FieldNames where
  type : String := "type"
  status : String := "status"
  lastUpdateTime : String := "lastUpdateTime"
  lastTransitionTime : String := "lastTransitionTime"
  reason : String := "reason"
  message : String := "message"
  observedGeneration : String := "observedGeneration"
deriving DecidableEq, Repr

/-- Which parts of a condition count as its state: the condition transitions when one of them
changes. -/
structure Transition where
  status : Bool := true
  reason : Bool := false
  message : Bool := false
deriving DecidableEq, Repr

/-- How conditions are read, written and kept up to date. -/
structure Accessor where
  names : FieldNames := {}
  transition : Transition := {}
  /-- Updates leave both timestamps alone. -/
  disableTimestampUpdates : Bool := false
deriving DecidableEq, Repr

/-- A computation that changes a record and may fail on the way. -/
abbrev Edit := Attempt AccessError Record

namespace Record

/-- Refuses what has no fields. -/
def ensureRecord (record : Record) (field : String) : Except AccessError Unit :=
  if record.isRecord then .ok () else .error (.notARecord field record.typeName)

/-- The value of a field, read as a type. -/
def read (record : Record) (field : String) (type : FieldType) :
    Except AccessError FieldValue := do
  record.ensureRecord field
  match record.field? field with
  | none => throw (.missingField field record.typeName)
  | some value =>
    match type.take? value with
    | some taken => return taken
    | none => throw (.convert field record.typeName type.expected value.describe)

/-- The record after an assignment to a field. -/
def assign (record : Record) (field : String) (value : FieldValue) :
    Except AccessError Record := do
  record.ensureRecord field
  match record.setField field value with
  | .ok assigned => return assigned
  | .error .notARecord => throw (.notARecord field record.typeName)
  | .error .missing => throw (.missingField field record.typeName)
  | .error (.mismatch expected) =>
    throw (.convert field record.typeName expected.expected value.describe)

/-- Whether the record has a field. -/
def has (record : Record) (field : String) : Except AccessError Bool := do
  record.ensureRecord field
  return (record.field? field).isSome

end Record

/-- A reading of the record under edit. -/
def Edit.reading {α : Type} (read : Record → Except AccessError α) : Edit α := do
  Attempt.ofExcept (read (← get))

/-- Assign to a field of the record under edit. -/
def Edit.assign (field : String) (value : FieldValue) : Edit Unit := do
  set (← Edit.reading fun record => record.assign field value)

/-- Assign to a field if the record has it. -/
def Edit.assignIfExists (field : String) (value : FieldValue) : Edit Unit := do
  if ← Edit.reading fun record => record.has field then Edit.assign field value

namespace Edit

variable {α : Type}

@[simp] theorem on_reading (read : Record → Except AccessError α) (record : Record) :
    (reading read).on record = (read record, record) := rfl

/-- A failing assignment leaves the record as it was. -/
theorem on_assign (field : String) (value : FieldValue) (record : Record) :
    (assign field value).on record =
      match record.assign field value with
      | .ok assigned => (.ok (), assigned)
      | .error error => (.error error, record) := by
  rw [assign, Attempt.on_bind, on_reading]
  cases record.assign field value <;> rfl

theorem on_assignIfExists (field : String) (value : FieldValue) (record : Record) :
    (assignIfExists field value).on record =
      match record.has field with
      | .ok true => (assign field value).on record
      | .ok false => (.ok (), record)
      | .error error => (.error error, record) := by
  rw [assignIfExists, Attempt.on_bind, on_reading]
  cases record.has field with
  | error error => rfl
  | ok found => cases found <;> rfl

end Edit

namespace Accessor

variable (accessor : Accessor)

/-- The type of a condition; unset is empty. -/
def type (record : Record) : Except AccessError String :=
  (record.read accessor.names.type .optionalString).map FieldValue.text

/-- The status of a condition; unset and empty are unknown. -/
def status (record : Record) : Except AccessError Status := do
  let text := (← record.read accessor.names.status .optionalString).text
  if text.isEmpty then return .unknown
  match Status.ofName? text with
  | some status => return status
  | none =>
    throw (.convert accessor.names.status record.typeName "one of True, False, Unknown"
      (Text.quoted text))

/-- The reason of a condition; unset is empty. -/
def reason (record : Record) : Except AccessError String :=
  (record.read accessor.names.reason .optionalString).map FieldValue.text

/-- The message of a condition; unset is empty. -/
def message (record : Record) : Except AccessError String :=
  (record.read accessor.names.message .optionalString).map FieldValue.text

/-- When a condition was last updated. -/
def lastUpdateTime (record : Record) : Except AccessError (Option Instant) :=
  (record.read accessor.names.lastUpdateTime .optionalTime).map FieldValue.instant?

/-- When a condition last transitioned. -/
def lastTransitionTime (record : Record) : Except AccessError (Option Instant) :=
  (record.read accessor.names.lastTransitionTime .optionalTime).map FieldValue.instant?

/-- The generation that a condition was computed from; unset is zero. -/
def observedGeneration (record : Record) : Except AccessError Int :=
  (record.read accessor.names.observedGeneration .optionalInt).map FieldValue.number

/-- Whether a record has the time of the last update. -/
def hasLastUpdateTime (record : Record) : Except AccessError Bool :=
  record.has accessor.names.lastUpdateTime

/-- Whether a record has the time of the last transition. -/
def hasLastTransitionTime (record : Record) : Except AccessError Bool :=
  record.has accessor.names.lastTransitionTime

/-- Whether a record has the observed generation. -/
def hasObservedGeneration (record : Record) : Except AccessError Bool :=
  record.has accessor.names.observedGeneration

/-- Set the type of a condition. -/
def setType (type : String) : Edit Unit :=
  Edit.assign accessor.names.type (.string type)

/-- Set the status of a condition. -/
def setStatus (status : Status) : Edit Unit :=
  Edit.assign accessor.names.status (.string status.name)

/-- Set the reason of a condition. -/
def setReason (reason : String) : Edit Unit :=
  Edit.assign accessor.names.reason (.string reason)

/-- Set the message of a condition. -/
def setMessage (message : String) : Edit Unit :=
  Edit.assign accessor.names.message (.string message)

/-- Set the time of the last update. -/
def setLastUpdateTime (time : Instant) : Edit Unit :=
  Edit.assign accessor.names.lastUpdateTime (.time time)

/-- Set the time of the last transition. -/
def setLastTransitionTime (time : Instant) : Edit Unit :=
  Edit.assign accessor.names.lastTransitionTime (.time time)

/-- Set the observed generation. -/
def setObservedGeneration (generation : Int) : Edit Unit :=
  Edit.assign accessor.names.observedGeneration (.int generation)

/-- Set the time of the last update of a record that has one. -/
def setLastUpdateTimeIfExists (time : Instant) : Edit Unit :=
  Edit.assignIfExists accessor.names.lastUpdateTime (.time time)

/-- Set the time of the last transition of a record that has one. -/
def setLastTransitionTimeIfExists (time : Instant) : Edit Unit :=
  Edit.assignIfExists accessor.names.lastTransitionTime (.time time)

end Accessor

end Reconciler.Condition
