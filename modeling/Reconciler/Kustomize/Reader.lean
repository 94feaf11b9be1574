import Reconciler.Kustomize.Kustomization
/-!
Reading kustomizations from YAML and from JSON.  In YAML every scalar can stand for a text, as it
is written; in JSON a text must be one.
-/
namespace Reconciler

namespace Yaml.Node

/-- The text of a scalar, as it is written. -/
def text? : Node → Option String
  | .scalar _ text _ => some text
  | _ => none

/-- A text that may be null. -/
def nullableText? : Node → Option (Option String)
  | .scalar tag text true =>
    match tag with
    | none => some (if text.isEmpty || Scalar.isNull text then none else some text)
    | some tag =>
      if tag ≠ .ofCommon "null" then some (some text)
      else if Scalar.isNull text then some none
      else none
  | .scalar _ text false => some (some text)
  | _ => none

/-- Whether there is nothing written, which can stand for an empty collection. -/
def isBlank : Node → Bool
  | .scalar _ text plain => plain && text.isEmpty
  | _ => false

/-- A list of values of one type. -/
def list? {α : Type} (decode : Node → Option α) : Node → Option (List α)
  | .sequence _ items => items.mapM decode
  | node => if node.isBlank then some [] else none

/-- The pairs of a mapping, whose keys must have a text. -/
def fields? : Node → Option (List (String × Node))
  | .mapping _ pairs => pairs.mapM fun pair => (text? pair.1).map (·, pair.2)
  | node => if node.isBlank then some [] else none

/-- A map of texts; a later pair replaces an earlier one. -/
def textMap? (node : Node) : Option StringMap := do
  let pairs ← (← fields? node).mapM fun pair => (text? pair.2).map (pair.1, ·)
  return .ofList pairs

/-- The value of a node. -/
def value? (node : Node) : Option Value :=
  (Value.ofNode node).toOption

end Yaml.Node

namespace Yaml.Value

mutual

/-- Whether there is no local tag in a value. -/
def isUntagged : Value → Bool
  | .seq items => areUntagged items
  | .map pairs => arePairsUntagged pairs
  | .tagged .. => false
  | _ => true

/-- Whether there is no local tag in some values. -/
def areUntagged : List Value → Bool
  | [] => true
  | item :: items => isUntagged item && areUntagged items

/-- Whether there is no local tag in some pairs. -/
def arePairsUntagged : List (Value × Value) → Bool
  | [] => true
  | (key, value) :: pairs => isUntagged key && isUntagged value && arePairsUntagged pairs

end

end Yaml.Value

/-- Among fields, the value of one that may occur once. -/
def Yaml.once? {β : Type} (fields : List (String × β)) (name : String) : Option (Option β) :=
  match fields.filter (·.1 = name) with
  | [] => some none
  | [field] => some (some field.2)
  | _ => none

/-- The value of a field that must occur once. -/
def Yaml.requiredOnce? {α β : Type} (decode : β → Option α) (fields : List (String × β))
    (name : String) : Option α := do
  (← once? fields name).bind decode

/-- The value of a field that may occur once. -/
def Yaml.optionalOnce? {α β : Type} (decode : β → Option α) (absent : α)
    (fields : List (String × β)) (name : String) : Option α := do
  match ← once? fields name with
  | some value => decode value
  | none => some absent

/-- How the parts of a kustomization are read from values of a type. -/
structure KustomizationForm (β : Type) where
  text? : β → Option String
  nullableText? : β → Option (Option String)
  list? : {α : Type} → (β → Option α) → β → Option (List α)
  textMap? : β → Option StringMap
  patch? : β → Option Yaml.Value
  image? : β → Option ImageOverride
  extra? : β → Option Yaml.Value

namespace ImageOverride

/-- The change of an image with some fields, of which each may occur once; other fields are passed
over. -/
def ofFields? {β : Type} (text? : β → Option String) (nullableText? : β → Option (Option String))
    (fields : List (String × β)) : Option ImageOverride := do
  return {
    name := ← Yaml.requiredOnce? text? fields "name"
    newName := ← Yaml.optionalOnce? nullableText? none fields "newName"
    newTag := ← Yaml.optionalOnce? nullableText? none fields "newTag"
    digest := ← Yaml.optionalOnce? nullableText? none fields "digest" }

/-- The fields of a change of an image that is written as a list. -/
def ofItems {β : Type} (items : List β) : Option (List (String × β)) :=
  let names := ["name", "newName", "newTag", "digest"]
  if items.length ≤ names.length then some (names.zip items) else none

/-- The change of an image in YAML, which is a mapping. -/
def ofNode? (node : Yaml.Node) : Option ImageOverride := do
  ofFields? Yaml.Node.text? Yaml.Node.nullableText? (← node.fields?)

/-- The change of an image in JSON, which may be written as a list. -/
def decode? : Json → Option ImageOverride
  | .obj fields => ofFields? Json.asString? nullable? fields
  | .arr items => do ofFields? Json.asString? nullable? (← ofItems items)
  | _ => none
where
  /-- A text that may be null. -/
  nullable? : Json → Option (Option String)
    | .null => some none
    | value => value.asString?.map some

end ImageOverride

namespace Kustomization

/-- The kustomization with some fields.  A structured part may occur once; of other fields a later
one replaces an earlier one. -/
def ofFields? {β : Type} (form : KustomizationForm β) (fields : List (String × β)) :
    Option Kustomization := do
  let others := fields.filter fun field => field.1 ∉ fieldNames
  return {
    apiVersion := ← Yaml.requiredOnce? form.text? fields "apiVersion"
    kind := ← Yaml.requiredOnce? form.text? fields "kind"
    namespaceName := ← Yaml.optionalOnce? form.nullableText? none fields "namespace"
    namePrefix := ← Yaml.optionalOnce? form.nullableText? none fields "namePrefix"
    nameSuffix := ← Yaml.optionalOnce? form.nullableText? none fields "nameSuffix"
    resources := ← Yaml.optionalOnce? (form.list? form.text?) [] fields "resources"
    components := ← Yaml.optionalOnce? (form.list? form.text?) [] fields "components"
    commonLabels := ← Yaml.optionalOnce? form.textMap? .empty fields "commonLabels"
    commonAnnotations := ← Yaml.optionalOnce? form.textMap? .empty fields "commonAnnotations"
    patches := ← Yaml.optionalOnce? (form.list? form.patch?) [] fields "patches"
    images := ← Yaml.optionalOnce? (form.list? form.image?) [] fields "images"
    extra := .ofList (← others.mapM fun field => (form.extra? field.2).map (field.1, ·)) }

/-- How the parts are read from YAML. -/
def yamlForm : KustomizationForm Yaml.Node where
  text? := Yaml.Node.text?
  nullableText? := Yaml.Node.nullableText?
  list? := Yaml.Node.list?
  textMap? := Yaml.Node.textMap?
  patch? := Yaml.Node.value?
  image? := ImageOverride.ofNode?
  extra? node := node.value?.filter Yaml.Value.isUntagged

/-- How the parts are read from JSON. -/
def jsonForm : KustomizationForm Json where
  text? := Json.asString?
  nullableText? := ImageOverride.decode?.nullable?
  list? := Json.asList?
  textMap? := Json.asMap? Json.asString?
  patch? value := some (.ofJson value)
  image? := ImageOverride.decode?
  extra? value := some (.ofJson value)

/-- The kustomization in YAML. -/
def ofNode? (node : Yaml.Node) : Option Kustomization := do
  ofFields? yamlForm (← node.fields?)

/-- The kustomization in JSON. -/
def decode? : Json → Option Kustomization
  | .obj fields => ofFields? jsonForm fields
  | _ => none

/-- Read the kustomization of a text of one document. -/
def read? (text : String) : Option Kustomization :=
  match Yaml.documents text with
  | [.ok node] => ofNode? node
  | _ => none

/-- Whether writing a kustomization and reading it again brings back an equal one. -/
def roundTrips (kustomization : Kustomization) : Bool :=
  (read? kustomization.write).any kustomization.same

end Kustomization

end Reconciler
