import Reconciler.Json.Writer
import Reconciler.Yaml.Value
/-!
YAML values as JSON.  Numbers without a JSON form become null, keys that are not text are written
as text where that is possible, and a tagged value becomes an object with one field.
-/
namespace Reconciler.Yaml.Value

/-- The JSON form of a number. -/
def floatJson : Float → Json
  | .finite value => .float value
  | _ => .null

/-- The text of a key, if it has one. -/
def keyText? : Value → Option String
  | .bool value => some (Json.bool value).compact
  | .int value => some (Json.int value).compact
  | .float (.finite value) => some (Json.float value).compact
  | .str text => some text
  | _ => none

mutual

/-- The JSON form of a value, if all keys of mappings have texts. -/
def toJson? : Value → Option Json
  | .null => some .null
  | .bool value => some (.bool value)
  | .int value => some (.int value)
  | .float value => some (floatJson value)
  | .str text => some (.str text)
  | .seq items => (itemsJson? items).map .arr
  | .map pairs => (fieldsJson? pairs).map .ofFields
  | .tagged tag value => do return .ofFields [("!" ++ tag, ← toJson? value)]

/-- The JSON forms of the items of a list. -/
def itemsJson? : List Value → Option (List Json)
  | [] => some []
  | item :: items => do return (← toJson? item) :: (← itemsJson? items)

/-- The fields of a mapping. -/
def fieldsJson? : List (Value × Value) → Option (List (String × Json))
  | [] => some []
  | (key, value) :: pairs => do
    return (← keyText? key, ← toJson? value) :: (← fieldsJson? pairs)

end

/-- The value with a JSON form. -/
def ofJson : Json → Value
  | .null => .null
  | .bool value => .bool value
  | .int value => .int value
  | .float value => .float (.finite value)
  | .str text => .str text
  | .arr items => .seq (ofItems items)
  | .obj fields => .map (ofFields fields)
where
  /-- The values of the items of a list. -/
  ofItems : List Json → List Value
    | [] => []
    | item :: items => ofJson item :: ofItems items
  /-- The pairs of the fields of an object. -/
  ofFields : List (String × Json) → List (Value × Value)
    | [] => []
    | (name, value) :: fields => (.str name, ofJson value) :: ofFields fields

end Reconciler.Yaml.Value
