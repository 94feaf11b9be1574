import Reconciler.Yaml.Value
/-!
Reading structured values from YAML values.  A structure is a mapping, whose unknown fields are
passed over, or the list of its fields in order.  Tags are passed over, except on null.
-/
namespace Reconciler.Yaml.Value

/-- A value without its tags. -/
def untagged : Value → Value
  | .tagged _ value => untagged value
  | value => value

/-- A text. -/
def asText? (value : Value) : Option String :=
  match value.untagged with
  | .str text => some text
  | _ => none

/-- A truth value. -/
def asBool? (value : Value) : Option Bool :=
  match value.untagged with
  | .bool value => some value
  | _ => none

/-- A list of values of one type. -/
def asList? {α : Type} (decode : Value → Option α) (value : Value) : Option (List α) :=
  match value.untagged with
  | .seq items => items.mapM decode
  | .null => some []
  | _ => none

/-- A map of texts. -/
def asTextMap? (value : Value) : Option (List (String × String)) :=
  match value.untagged with
  | .map pairs => pairs.mapM fun (key, value) => do return (← asText? key, ← asText? value)
  | .null => some []
  | _ => none

/-- The fields of a structure that are written.  In a list none may be missing. -/
def asFields? (names : List String) (value : Value) : Option (List (String × Value)) :=
  match value.untagged with
  | .map pairs => pairs.mapM fun (key, value) => (asText? key).map (·, value)
  | .seq items => if items.length = names.length then some (names.zip items) else none
  | _ => none

/-- A field that must be written. -/
def required? {α : Type} (decode : Value → Option α) (fields : List (String × Value))
    (name : String) : Option α :=
  (fields.find? (·.1 = name)).bind fun field => decode field.2

/-- A field that may be absent or null. -/
def optional? {α : Type} (decode : Value → Option α) (fields : List (String × Value))
    (name : String) : Option (Option α) :=
  match fields.find? (·.1 = name) with
  | none | some (_, .null) => some none
  | some field => (decode field.2).map some

mutual

/-- Whether a value consists of what JSON has: there are no tags, and keys are texts. -/
def isJsonLike : Value → Bool
  | .seq items => areJsonLike items
  | .map pairs => haveJsonLike pairs
  | .tagged .. => false
  | _ => true

/-- Whether some values consist of what JSON has. -/
def areJsonLike : List Value → Bool
  | [] => true
  | item :: items => isJsonLike item && areJsonLike items

/-- Whether some pairs consist of what JSON has. -/
def haveJsonLike : List (Value × Value) → Bool
  | [] => true
  | (key, value) :: pairs =>
    (match key with | .str _ => true | _ => false) && isJsonLike value && haveJsonLike pairs

end

end Reconciler.Yaml.Value
