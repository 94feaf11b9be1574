import Reconciler.Kind
/-!
Where an API server serves the objects of a kind: the kind in small letters and in the plural, under
the version of its group, and in a namespace if one is given.
-/
namespace Reconciler.Api

/-- A word in the plural by the usual rules of English spelling.  Some words are their own plural,
or stand for others. -/
def plural (word : String) : String :=
  let chars := word.toList
  let endsWith (suffix : List Char) : Bool := suffix.isSuffixOf chars
  if word = "endpoints" ∨ word = "endpointslices" then word
  else if word = "nodemetrics" then "nodes"
  else if word = "podmetrics" then "pods"
  else if [['s'], ['x'], ['z'], ['c', 'h'], ['s', 'h']].any endsWith then word ++ "es"
  else if endsWith ['y'] ∧ 2 ≤ chars.length ∧
      (chars[word.utf8ByteSize - 2]?).any (· ∉ ['a', 'e', 'i', 'o', 'u']) then
    String.ofList chars.dropLast ++ "ies"
  else word ++ "s"

/-- The name of the objects of a kind in paths. -/
def resourceName (kind : String) : String :=
  plural kind.toLower

/-- The path of the objects of a kind. -/
def collectionPath (gvk : GroupVersionKind) (namespaceName : Option String) : String :=
  let root := if gvk.group.isEmpty then "/api/" else "/apis/"
  let place := match namespaceName with
    | some name => "namespaces/" ++ name ++ "/"
    | none => ""
  root ++ gvk.apiVersion ++ "/" ++ place ++ resourceName gvk.kind

example : resourceName "NetworkPolicy" = "networkpolicies" := by decide +kernel
example : resourceName "Gateway" = "gateways" := by decide +kernel
example : collectionPath ⟨"apps", "v1", "Deployment"⟩ (some "a") =
    "/apis/apps/v1/namespaces/a/deployments" := by decide +kernel

end Reconciler.Api
