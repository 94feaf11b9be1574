import Reconciler.Json.Writer
import Reconciler.Text.Quoted
import Reconciler.Time.Rfc3339
/-!
Values of the fields of a condition, the types that a field can have, and which values each type
takes.  Taking a value may convert it: an unset string becomes the empty one, and a text becomes
the instant that it writes.
-/
namespace Reconciler.Condition

/-- The state that a condition reports. -/
inductive Status where
  | true
  | false
  | unknown
deriving DecidableEq, Repr

/-- The name of a status. -/
def Status.name : Status → String
  | .true => "True"
  | .false => "False"
  | .unknown => "Unknown"

/-- The status with a name. -/
def Status.ofName? (name : String) : Option Status :=
  if name = "True" then some .true
  else if name = "False" then some .false
  else if name = "Unknown" then some .unknown
  else none

theorem Status.ofName?_name (status : Status) : ofName? status.name = some status := by
  cases status <;> decide

/-- The status that a truth value reports. -/
def Status.ofBool (value : Bool) : Status :=
  if value then .true else .false

/-- The value of one field. -/
inductive FieldValue where
  /-- The field is there and holds nothing. -/
  | null
  | string (text : String)
  | int (value : Int)
  | time (instant : Instant)
  /-- A JSON value that is none of the others. -/
  | other (value : Json)
deriving DecidableEq

namespace FieldValue

/-- Integers of 64 bits. -/
def isInt64 (i : Int) : Bool :=
  -(Nat.pow 2 63) ≤ i && i < Nat.pow 2 63

/-- A value in the words of an error message. -/
def describe : FieldValue → String
  | .null => "null"
  | .string text => "string " ++ Text.quoted text
  | .int value => "integer " ++ String.ofList (Json.writeInt value)
  | .time _ => "timestamp"
  | .other value => "JSON value " ++ value.compact

/-- The field value that a JSON value stands for. -/
def ofJson : Json → FieldValue
  | .null => .null
  | .str text => .string text
  | .int value => if isInt64 value then .int value else .other (.int value)
  | value => .other value

/-- The JSON value that a field value is stored as; instants are cut off to whole seconds. -/
def toJson : FieldValue → Json
  | .null => .null
  | .string text => .str text
  | .int value => .int value
  | .time instant => .str (Rfc3339.write 0 instant)
  | .other value => value

/-- The text of a string, and the empty text for anything else. -/
def text : FieldValue → String
  | .string text => text
  | _ => ""

/-- The instant of a time. -/
def instant? : FieldValue → Option Instant
  | .time instant => some instant
  | _ => none

/-- The value of an integer, and zero for anything else. -/
def number : FieldValue → Int
  | .int value => value
  | _ => 0

end FieldValue

/-- The types of fields. -/
inductive FieldType where
  | string
  | optionalString
  | time
  | optionalTime
  | optionalInt
deriving DecidableEq, Repr

namespace FieldType

/-- A type in the words of an error message. -/
def expected : FieldType → String
  | .string => "string"
  | .optionalString => "optional string"
  | .time => "timestamp"
  | .optionalTime => "optional timestamp"
  | .optionalInt => "optional integer"

/-- The value that a field of the type holds after it took a value, if it takes it. -/
def take? : FieldType → FieldValue → Option FieldValue
  | .string, .string text => some (.string text)
  | .string, .null => some (.string "")
  | .optionalString, .string text => some (.string text)
  | .optionalString, .null => some .null
  | .time, .time instant => some (.time instant)
  | .time, .string text => (Rfc3339.parse? text).map .time
  | .optionalTime, .null => some .null
  | .optionalTime, .time instant => some (.time instant)
  | .optionalTime, .string text => (Rfc3339.parse? text).map .time
  | .optionalInt, .int value => some (.int value)
  | .optionalInt, .null => some .null
  | _, _ => none

/-- The value of a field that nothing was assigned to; a required time starts at `now`. -/
def blank (now : Instant) : FieldType → FieldValue
  | .string => .string ""
  | .time => .time now
  | _ => .null

/-- The values that a field of the type holds. -/
def Holds (type : FieldType) (value : FieldValue) : Prop :=
  type.take? value = some value

instance (type : FieldType) (value : FieldValue) : Decidable (type.Holds value) :=
  inferInstanceAs (Decidable (_ = _))

theorem holds_of_take? {type : FieldType} {value taken : FieldValue}
    (took : type.take? value = some taken) : type.Holds taken := by
  cases type <;> cases value <;> simp [take?] at took <;>
    first
    | (subst took; rfl)
    | (obtain ⟨_, _, rfl⟩ := took; rfl)

/-- A field of texts holds a text or nothing. -/
theorem Holds.text {type : FieldType} {value : FieldValue} (h : type.Holds value)
    (htype : type = .string ∨ type = .optionalString) :
    value = .null ∨ ∃ text, value = .string text := by
  rcases htype with rfl | rfl <;> cases value <;> simp [Holds, take?] at h ⊢

/-- A field of times holds a time or nothing. -/
theorem Holds.time {type : FieldType} {value : FieldValue} (h : type.Holds value)
    (htype : type = .time ∨ type = .optionalTime) :
    value = .null ∨ ∃ instant, value = .time instant := by
  rcases htype with rfl | rfl <;> cases value <;> simp [Holds, take?] at h ⊢

/-- A field of numbers holds a number or nothing. -/
theorem Holds.int {value : FieldValue} (h : optionalInt.Holds value) :
    value = .null ∨ ∃ number, value = .int number := by
  cases value <;> simp [Holds, take?] at h ⊢

theorem holds_blank (now : Instant) (type : FieldType) : type.Holds (type.blank now) := by
  cases type <;> rfl

/-- The field value in a serialized record: what the type takes, where the text of a time is read
by the relaxed reader.  A required time must be there. -/
def decode? (type : FieldType) (value : Option Json) : Option FieldValue :=
  match type, value with
  | .time, none => none
  | _, none => type.take? .null
  | .time, some (.str text) | .optionalTime, some (.str text) =>
    (Rfc3339.parseRelaxed? text).map .time
  | _, some value => type.take? (.ofJson value)

theorem holds_of_decode? {type : FieldType} {value : Option Json} {decoded : FieldValue}
    (found : type.decode? value = some decoded) : type.Holds decoded := by
  unfold decode? at found
  split at found
  · simp at found
  · exact holds_of_take? found
  · obtain ⟨_, _, rfl⟩ := Option.map_eq_some_iff.1 found; rfl
  · obtain ⟨_, _, rfl⟩ := Option.map_eq_some_iff.1 found; rfl
  · exact holds_of_take? found

end FieldType

end Reconciler.Condition
