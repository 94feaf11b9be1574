/-!
What is wrong with a text that is no YAML.
-/
namespace Reconciler.Yaml

/-- Why a text is no YAML. -/
inductive Error where
  /-- A character that may not occur at all. -/
  | character
  /-- No token can be read here. -/
  | token
  /-- A token that may not follow the ones before it. -/
  | order
  | unknownAnchor
  | tooDeep
  | tooManyAliases
  | duplicateKey
  /-- A whole number that is too large. -/
  | number
  /-- A value that does not have the form that its tag demands. -/
  | tag
deriving DecidableEq, Repr

end Reconciler.Yaml
