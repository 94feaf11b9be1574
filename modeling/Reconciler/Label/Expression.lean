import Reconciler.Json.Decode
/-!
Label selectors: requirements on the labels of an object.  A selector is a list of expressions and
selects the objects whose labels satisfy all of them.
-/
namespace Reconciler.Label

/-- A requirement on the value, or on the presence, of one label. -/
inductive Expression where
  | equal (key value : String)
  | notEqual (key value : String)
  | isIn (key : String) (values : StringSet)
  | notIn (key : String) (values : StringSet)
  | present (key : String)
  | absent (key : String)
deriving DecidableEq

/-- A list of requirements. -/
abbrev Selector := List Expression

/-- Whether labels satisfy a requirement.  An absent label has no value, so it is different from
every value and in no set of values. -/
def Expression.matches (labels : StringMap) : Expression → Bool
  | .equal key value => labels.get? key = some value
  | .notEqual key value => labels.get? key ≠ some value
  | .isIn key values => (labels.get? key).any values.contains
  | .notIn key values => !(labels.get? key).any values.contains
  | .present key => labels.contains key
  | .absent key => !labels.contains key

/-- Whether labels satisfy every requirement. -/
def Selector.matches (selector : Selector) (labels : StringMap) : Bool :=
  selector.all (·.matches labels)

/-- Whether the selector requires nothing. -/
def Selector.selectsAll (selector : Selector) : Bool :=
  selector.isEmpty

/-- The text of a requirement. -/
def Expression.text : Expression → String
  | .equal key value => key ++ "=" ++ value
  | .notEqual key value => key ++ "!=" ++ value
  | .isIn key values => key ++ " in (" ++ ",".intercalate values.toList ++ ")"
  | .notIn key values => key ++ " notin (" ++ ",".intercalate values.toList ++ ")"
  | .present key => key
  | .absent key => "!" ++ key

/-- The text of a selector: its requirements between commas. -/
def Selector.text (selector : Selector) : String :=
  ",".intercalate (selector.map Expression.text)

/-- The JSON form of a requirement. -/
def Expression.toJson : Expression → Json
  | .equal key value => .ofFields [("op", .str "Equal"), ("key", .str key), ("value", .str value)]
  | .notEqual key value =>
    .ofFields [("op", .str "NotEqual"), ("key", .str key), ("value", .str value)]
  | .isIn key values =>
    .ofFields [("op", .str "In"), ("key", .str key), ("values", .strings values.toList)]
  | .notIn key values =>
    .ofFields [("op", .str "NotIn"), ("key", .str key), ("values", .strings values.toList)]
  | .present key => .ofFields [("op", .str "Exists"), ("key", .str key)]
  | .absent key => .ofFields [("op", .str "DoesNotExist"), ("key", .str key)]

end Reconciler.Label
