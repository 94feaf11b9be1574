import Reconciler.Condition.Record
import Reconciler.Object.Meta
import Reconciler.Text.Base64
/-!
Forms of values, as data: a form says which values there are, how they are read from JSON, and how
they are written.  A record has a table of fields.  An optional field is written if it is set; a
required one is always written, and is blank where it is unset.  Null counts as unset, and fields
that are not in the table are dropped.
-/
namespace Reconciler

/-- Octets written in base 64. -/
def Json.asBytes? (value : Json) : Option (List UInt8) :=
  value.asString?.bind fun text => Text.Base64.decode? text.toList

/-- Octets as text in base 64. -/
def Json.bytes (octets : List UInt8) : Json :=
  .str (String.ofList (Text.Base64.encode octets))

/-- A map as an object, given how its values are written. -/
def Json.ofMap {α : Type} (encode : α → Json) (map : SortedMap String α) : Json :=
  .obj (map.entries.map fun entry => (entry.1, encode entry.2))

/-- A number of 32 bits, or a text. -/
inductive NumberOrText where
  | number (value : Int)
  | text (value : String)
deriving DecidableEq, Repr

namespace NumberOrText

/-- Read a number or a text. -/
def decode? : Json → Option NumberOrText
  | .str value => some (.text value)
  | json => (json.asInt? 32).map .number

/-- The JSON form. -/
def toJson : NumberOrText → Json
  | .number value => .int value
  | .text value => .str value

end NumberOrText

mutual

/-- What a value is made of. -/
inductive Form where
  | text
  | truth
  /-- Signed integers of so many bits. -/
  | whole (bits : Nat)
  /-- Octets, written in base 64. -/
  | bytes
  /-- Times, written in whole seconds. -/
  | seconds
  /-- Times, written in microseconds. -/
  | micros
  | numberOrText
  /-- Any value, kept as it is. -/
  | any
  /-- Any object, kept as it is. -/
  | object
  /-- The metadata of an object. -/
  | metadata
  | condition (type : Condition.ConditionType)
  | list (item : Form)
  /-- Values under texts. -/
  | map (value : Form)
  | record (table : Table)

/-- The fields of a record, with their names. -/
inductive Table where
  | nil
  | optional (name : String) (form : Form) (rest : Table)
  | required (name : String) (form : Form) (rest : Table)

end

mutual

/-- The values of a form. -/
def Form.Value : Form → Type
  | .text => String
  | .truth => Bool
  | .whole _ => Int
  | .bytes => List UInt8
  | .seconds | .micros => Instant
  | .numberOrText => NumberOrText
  | .any | .object => Json
  | .metadata => ObjectMeta
  | .condition _ => Condition.Record
  | .list item => List item.Value
  | .map value => SortedMap String value.Value
  | .record table => table.Row

/-- The values of the fields of a record. -/
def Table.Row : Table → Type
  | .nil => Unit
  | .optional _ form rest => Option form.Value × rest.Row
  | .required _ form rest => form.Value × rest.Row

end

mutual

/-- Whether two values are the same. -/
def Form.decEq : (form : Form) → DecidableEq form.Value
  | .text => inferInstanceAs (DecidableEq String)
  | .truth => inferInstanceAs (DecidableEq Bool)
  | .whole _ => inferInstanceAs (DecidableEq Int)
  | .bytes => inferInstanceAs (DecidableEq (List UInt8))
  | .seconds | .micros => inferInstanceAs (DecidableEq Instant)
  | .numberOrText => inferInstanceAs (DecidableEq NumberOrText)
  | .any | .object => inferInstanceAs (DecidableEq Json)
  | .metadata => inferInstanceAs (DecidableEq ObjectMeta)
  | .condition _ => inferInstanceAs (DecidableEq Condition.Record)
  | .list item =>
    let _ := item.decEq
    inferInstanceAs (DecidableEq (List item.Value))
  | .map value =>
    let _ := value.decEq
    inferInstanceAs (DecidableEq (SortedMap String value.Value))
  | .record table => table.decEq

/-- Whether the fields of two records are the same. -/
def Table.decEq : (table : Table) → DecidableEq table.Row
  | .nil => inferInstanceAs (DecidableEq Unit)
  | .optional _ form rest =>
    let _ := form.decEq
    let _ := rest.decEq
    inferInstanceAs (DecidableEq (Option form.Value × rest.Row))
  | .required _ form rest =>
    let _ := form.decEq
    let _ := rest.decEq
    inferInstanceAs (DecidableEq (form.Value × rest.Row))

end

instance (form : Form) : DecidableEq form.Value := form.decEq

instance (table : Table) : DecidableEq table.Row := table.decEq

mutual

/-- The value of a required field that is unset. -/
def Form.blank : (form : Form) → form.Value
  | .text => ""
  | .truth => false
  | .whole _ => (0 : Int)
  | .bytes => []
  | .seconds | .micros => Instant.ofSeconds 0
  | .numberOrText => .number 0
  | .any => .null
  | .object => .obj []
  | .metadata => {}
  | .condition type => .blank (.typed type) (.ofSeconds 0)
  | .list _ => []
  | .map _ => .empty
  | .record table => table.blank

/-- A record of which nothing is set. -/
def Table.blank : (table : Table) → table.Row
  | .nil => ()
  | .optional _ _ rest => (none, rest.blank)
  | .required _ form rest => (form.blank, rest.blank)

end

mutual

/-- Read a value. -/
def Form.decode? : (form : Form) → Json → Option form.Value
  | .text => Json.asString?
  | .truth => Json.asBool?
  | .whole bits => Json.asInt? bits
  | .bytes => Json.asBytes?
  | .seconds | .micros => Json.asTime?
  | .numberOrText => NumberOrText.decode?
  | .any => some
  | .object => Json.asObject?
  | .metadata => ObjectMeta.decode?
  | .condition type => Condition.Record.decode? (.typed type)
  | .list item => Json.asList? item.decode?
  | .map value => Json.asMap? value.decode?
  | .record table => fun json => json.asObject?.bind table.decode?

/-- Read the fields of a record. -/
def Table.decode? : (table : Table) → Json → Option table.Row
  | .nil => fun _ => some ()
  | .optional name form rest => fun json =>
    (json.optional? form.decode? name).bind fun value =>
      (rest.decode? json).map (value, ·)
  | .required name form rest => fun json =>
    (json.defaulted? form.decode? form.blank name).bind fun value =>
      (rest.decode? json).map (value, ·)

end

mutual

/-- The JSON form of a value. -/
def Form.toJson : (form : Form) → form.Value → Json
  | .text => .str
  | .truth => .bool
  | .whole _ => .int
  | .bytes => .bytes
  | .seconds => .time 0
  | .micros => .time 6
  | .numberOrText => NumberOrText.toJson
  | .any | .object => id
  | .metadata => ObjectMeta.toJson
  | .condition _ => Condition.Record.toJson
  | .list item => fun values => .arr (values.map item.toJson)
  | .map value => .ofMap value.toJson
  | .record table => fun row => .present (table.fields row)

/-- The fields of a record as they are written. -/
def Table.fields : (table : Table) → table.Row → List (String × Option Json)
  | .nil => fun _ => []
  | .optional name form rest => fun row => (name, row.1.map form.toJson) :: rest.fields row.2
  | .required name form rest => fun row => (name, some (form.toJson row.1)) :: rest.fields row.2

end

/-- The names of the fields. -/
def Table.names : Table → List String
  | .nil => []
  | .optional name _ rest | .required name _ rest => name :: rest.names

/-- Whether a field of the form that is unset counts as blank.  Times and conditions must be set. -/
def Form.hasBlank : Form → Bool
  | .seconds | .micros | .condition _ => false
  | _ => true

mutual

/-- Whether no record within has two fields of one name, and required fields can be blank. -/
def Form.sound : Form → Bool
  | .list item => item.sound
  | .map value => value.sound
  | .record table => decide table.names.Nodup && table.sound
  | _ => true

/-- Whether the forms of the fields are sound, and required fields can be blank. -/
def Table.sound : Table → Bool
  | .nil => true
  | .optional _ form rest => form.sound && rest.sound
  | .required _ form rest => form.hasBlank && form.sound && rest.sound

end

end Reconciler
