import Reconciler.Json.Basic
import Reconciler.StringSet
/-!
Reading values of other types from JSON, and writing their fields back.  A field that is absent and
a field that holds null are both unset; a field of the wrong type makes the whole value unreadable.
-/
namespace Reconciler.Json

/-- A string. -/
def asString? : Json → Option String
  | .str text => some text
  | _ => none

/-- A truth value. -/
def asBool? : Json → Option Bool
  | .bool value => some value
  | _ => none

/-- A signed integer of so many bits. -/
def asInt? (bits : Nat) : Json → Option Int
  | .int value =>
    let bound := Nat.pow 2 (bits - 1)
    if -bound ≤ value ∧ value < bound then some value else none
  | _ => none

/-- An object, as it is. -/
def asObject? (value : Json) : Option Json :=
  if value.isObject then some value else none

/-- A list of values of one type. -/
def asList? {α : Type} (decode : Json → Option α) : Json → Option (List α)
  | .arr items => items.mapM decode
  | _ => none

/-- A map from strings to values of one type. -/
def asMap? {α : Type} (decode : Json → Option α) : Json → Option (SortedMap String α)
  | .obj fields => (fields.mapM fun field => (decode field.2).map (field.1, ·)).map .ofList
  | _ => none

/-- The field of an object, if it is set, as a value of a type. -/
def optional? {α : Type} (decode : Json → Option α) (name : String) (value : Json) :
    Option (Option α) :=
  match value.field? name with
  | none | some .null => some none
  | some field => (decode field).map some

/-- The field of an object as a value of a type, or a default where it is unset. -/
def defaulted? {α : Type} (decode : Json → Option α) (default : α) (name : String)
    (value : Json) : Option α :=
  (value.optional? decode name).map (·.getD default)

/-- The object with the fields that are set. -/
def present (fields : List (String × Option Json)) : Json :=
  .ofFields (fields.filterMap fun field => field.2.map (field.1, ·))

/-- A list of strings. -/
def strings (items : List String) : Json :=
  .arr (items.map .str)

/-- A map from strings to strings as an object. -/
def stringMap (map : StringMap) : Json :=
  .obj (map.entries.map fun entry => (entry.1, .str entry.2))

end Reconciler.Json
