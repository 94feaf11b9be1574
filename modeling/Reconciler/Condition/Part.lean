import Reconciler.Condition.Update
/-!
The parts of a condition by name, so that a part can be chosen at run time.  Every part has values
of one type.
-/
namespace Reconciler.Condition

/-- The parts of a condition. -/
inductive Part where
  | type
  | status
  | reason
  | message
  | lastUpdateTime
  | lastTransitionTime
  | observedGeneration
deriving DecidableEq, Repr

namespace Part

/-- All parts. -/
def all : List Part :=
  [.type, .status, .reason, .message, .lastUpdateTime, .lastTransitionTime, .observedGeneration]

/-- The name of a part, under which records store it by default. -/
def name : Part → String
  | .type => "type"
  | .status => "status"
  | .reason => "reason"
  | .message => "message"
  | .lastUpdateTime => "lastUpdateTime"
  | .lastTransitionTime => "lastTransitionTime"
  | .observedGeneration => "observedGeneration"

/-- The part with a name. -/
def ofName? (name : String) : Option Part :=
  all.find? fun part => part.name = name

end Part

/-- The values of parts. -/
inductive PartValue where
  | text (value : String)
  | status (value : Status)
  | time (value : Option Instant)
  | number (value : Int)
deriving DecidableEq

namespace PartValue

/-- The JSON form: times are written to the nanosecond. -/
def toJson : PartValue → Json
  | .text value => .str value
  | .status value => .str value.name
  | .time value => (value.map fun t => Json.str (Rfc3339.write 9 t)).getD .null
  | .number value => .int value

/-- The value of a part in JSON form; a truth value is a status too. -/
def ofJson? : Part → Json → Option PartValue
  | .status, .bool value => some (.status (.ofBool value))
  | .status, .str name => (Status.ofName? name).map .status
  | .type, .str value | .reason, .str value | .message, .str value => some (.text value)
  | .lastUpdateTime, .str value | .lastTransitionTime, .str value =>
    (Rfc3339.parse? value).map fun t => .time (some t)
  | .observedGeneration, .int value =>
    if FieldValue.isInt64 value then some (.number value) else none
  | _, _ => none

end PartValue

/-- The name under which records store a part. -/
def FieldNames.name (names : FieldNames) : Part → String
  | .type => names.type
  | .status => names.status
  | .reason => names.reason
  | .message => names.message
  | .lastUpdateTime => names.lastUpdateTime
  | .lastTransitionTime => names.lastTransitionTime
  | .observedGeneration => names.observedGeneration

namespace Accessor

variable (accessor : Accessor)

/-- Read a part of a condition. -/
def getPart (record : Record) : Part → Except AccessError PartValue
  | .type => (accessor.type record).map .text
  | .status => (accessor.status record).map .status
  | .reason => (accessor.reason record).map .text
  | .message => (accessor.message record).map .text
  | .lastUpdateTime => (accessor.lastUpdateTime record).map .time
  | .lastTransitionTime => (accessor.lastTransitionTime record).map .time
  | .observedGeneration => (accessor.observedGeneration record).map .number

/-- Whether a record has a part. -/
def hasPart (record : Record) (part : Part) : Except AccessError Bool :=
  record.has (accessor.names.name part)

/-- The edit that sets a part to a value, if the value is of the type of the part. -/
def setPart? : Part → PartValue → Option (Edit Unit)
  | .type, .text value => some (accessor.setType value)
  | .status, .status value => some (accessor.setStatus value)
  | .reason, .text value => some (accessor.setReason value)
  | .message, .text value => some (accessor.setMessage value)
  | .lastUpdateTime, .time (some value) => some (accessor.setLastUpdateTime value)
  | .lastTransitionTime, .time (some value) => some (accessor.setLastTransitionTime value)
  | .observedGeneration, .number value => some (accessor.setObservedGeneration value)
  | _, _ => none

end Accessor

end Reconciler.Condition
