import Reconciler.Json.Decode
import Reconciler.Yaml.Value.Json
import Reconciler.Yaml.Value.Reader
import Reconciler.Yaml.Value.Writer
/-!
Kustomizations: what is built into a stream of objects.  The commonly used parts are structured,
and everything else is kept as it is under its own name.
-/
namespace Reconciler

/-- A change of an image. -/
structure ImageOverride where
  name : String
  newName : Option String := none
  newTag : Option String := none
  digest : Option String := none
deriving DecidableEq

/-- The parts of a kustomization that are structured. -/
def Kustomization.fieldNames : List String :=
  ["apiVersion", "kind", "namespace", "namePrefix", "nameSuffix", "resources", "components",
    "commonLabels", "commonAnnotations", "patches", "images"]

/-- A kustomization. -/
structure Kustomization where
  apiVersion : String := "kustomize.config.k8s.io/v1beta1"
  kind : String := "Kustomization"
  namespaceName : Option String := none
  namePrefix : Option String := none
  nameSuffix : Option String := none
  resources : List String := []
  components : List String := []
  commonLabels : StringMap := .empty
  commonAnnotations : StringMap := .empty
  patches : List Yaml.Value := []
  images : List ImageOverride := []
  /-- Everything else. -/
  extra : SortedMap String Yaml.Value := .empty

namespace Yaml

/-- A field of a mapping that is set. -/
def setField (name : String) (value : Option Value) : List (Value × Value) :=
  value.toList.map (Value.str name, ·)

/-- A list, unless it is empty. -/
def listUnlessEmpty (items : List Value) : Option Value :=
  if items.isEmpty then none else some (.seq items)

/-- A map of texts, unless it is empty. -/
def mapUnlessEmpty (map : StringMap) : Option Value :=
  if map.entries.isEmpty then none
  else some (.map (map.entries.map fun entry => (.str entry.1, .str entry.2)))

end Yaml

/-- The YAML form of a change of an image. -/
def ImageOverride.toYaml (image : ImageOverride) : Yaml.Value :=
  .map ((.str "name", .str image.name) ::
    Yaml.setField "newName" (image.newName.map .str) ++
    Yaml.setField "newTag" (image.newTag.map .str) ++
    Yaml.setField "digest" (image.digest.map .str))

namespace Kustomization

/-- The YAML form. -/
def toYaml (kustomization : Kustomization) : Yaml.Value :=
  let strings (texts : List String) := Yaml.listUnlessEmpty (texts.map .str)
  .map (
    Yaml.setField "apiVersion" (some (.str kustomization.apiVersion)) ++
    Yaml.setField "kind" (some (.str kustomization.kind)) ++
    Yaml.setField "namespace" (kustomization.namespaceName.map .str) ++
    Yaml.setField "namePrefix" (kustomization.namePrefix.map .str) ++
    Yaml.setField "nameSuffix" (kustomization.nameSuffix.map .str) ++
    Yaml.setField "resources" (strings kustomization.resources) ++
    Yaml.setField "components" (strings kustomization.components) ++
    Yaml.setField "commonLabels" (Yaml.mapUnlessEmpty kustomization.commonLabels) ++
    Yaml.setField "commonAnnotations" (Yaml.mapUnlessEmpty kustomization.commonAnnotations) ++
    Yaml.setField "patches" (Yaml.listUnlessEmpty kustomization.patches) ++
    Yaml.setField "images"
      (Yaml.listUnlessEmpty (kustomization.images.map ImageOverride.toYaml)) ++
    kustomization.extra.entries.map fun entry => (.str entry.1, entry.2))

/-- The JSON form, if there is one. -/
def toJson? (kustomization : Kustomization) : Option Json :=
  kustomization.toYaml.toJson?

/-- Whether two kustomizations count as equal. -/
def same (a b : Kustomization) : Bool :=
  a.toYaml.same b.toYaml

/-- The text of a kustomization. -/
def write (kustomization : Kustomization) : String :=
  kustomization.toYaml.write

end Kustomization

end Reconciler
