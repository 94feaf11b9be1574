import Reconciler.Json.Decode
/-!
Reading settings leniently: a field that is absent and one of the wrong type both count as not set.
-/
namespace Reconciler.Json

/-- The field of an object, null if it has none. -/
def get (json : Json) (name : String) : Json :=
  (json.field? name).getD .null

/-- A text that may be set. -/
def text? (json : Json) (name : String) : Option String :=
  (json.get name).asString?

/-- A text, empty if it is not set. -/
def text (json : Json) (name : String) : String :=
  (json.text? name).getD ""

/-- A truth value, false if it is not set. -/
def flag (json : Json) (name : String) : Bool :=
  (json.get name).asBool?.getD false

/-- An integer that may be set. -/
def int? (json : Json) (name : String) : Option Int :=
  (json.get name).asInt? 64

/-- A natural number that may be set. -/
def nat? (json : Json) (name : String) : Option Nat :=
  match json.get name with
  | .int value => if 0 ≤ value then some value.toNat else none
  | _ => none

/-- A list, empty if it is not set. -/
def items (json : Json) (name : String) : List Json :=
  match json.get name with
  | .arr items => items
  | _ => []

/-- A list of texts; other items are left out. -/
def texts (json : Json) (name : String) : List String :=
  (json.items name).filterMap asString?

/-- The JSON form of a text that may be set. -/
def optional (value : Option String) : Json :=
  (value.map .str).getD .null

end Reconciler.Json
