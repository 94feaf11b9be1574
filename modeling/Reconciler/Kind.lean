import Reconciler.SortedMap
/-!
Kinds of objects.  A kind belongs to a group and is served in versions; the version does not count
when an object is identified.  A group and a version are written together as an API version.
-/
namespace Reconciler

/-- A group and a kind, whatever the version. -/
structure GroupKind where
  group : String
  kind : String
deriving DecidableEq, Repr, Inhabited

namespace GroupKind

instance : Ord GroupKind := ⟨compareLex (compareOn group) (compareOn kind)⟩

instance : Std.TransOrd GroupKind :=
  inferInstanceAs (Std.TransCmp (compareLex (compareOn group) (compareOn kind)))

instance : Std.LawfulEqOrd GroupKind where
  eq_of_compare {a b} same := by
    have same : (compare a.group b.group).then (compare a.kind b.kind) = .eq := same
    rw [Ordering.then_eq_eq] at same
    cases a; cases b
    simp_all

/-- The kind, and after a dot the group if it has a name. -/
def text (groupKind : GroupKind) : String :=
  if groupKind.group.isEmpty then groupKind.kind
  else groupKind.kind ++ "." ++ groupKind.group

end GroupKind

/-- A kind in a version of its group. -/
structure GroupVersionKind where
  group : String
  version : String
  kind : String
deriving DecidableEq, Repr, Inhabited

namespace GroupVersionKind

/-- The kind without its version. -/
def groupKind (gvk : GroupVersionKind) : GroupKind :=
  ⟨gvk.group, gvk.kind⟩

/-- The API version: the group and the version with a slash between, or the version alone in the
group without a name. -/
def apiVersion (gvk : GroupVersionKind) : String :=
  if gvk.group.isEmpty then gvk.version else gvk.group ++ "/" ++ gvk.version

/-- A kind that can be told from what it is written as. -/
structure Legible (gvk : GroupVersionKind) : Prop where
  kind : gvk.kind ≠ ""
  version : gvk.version ≠ ""
  group : '/' ∉ gvk.group.toList
  /-- Without a group the API version is the version alone. -/
  bare : gvk.group = "" → '/' ∉ gvk.version.toList

instance (gvk : GroupVersionKind) : Decidable gvk.Legible :=
  decidable_of_iff (gvk.kind ≠ "" ∧ gvk.version ≠ "" ∧ '/' ∉ gvk.group.toList ∧
      (gvk.group = "" → '/' ∉ gvk.version.toList))
    ⟨fun ⟨kind, version, group, bare⟩ => ⟨kind, version, group, bare⟩,
      fun ⟨kind, version, group, bare⟩ => ⟨kind, version, group, bare⟩⟩

end GroupVersionKind

/-- A group and a version. -/
structure GroupVersion where
  group : String
  version : String
deriving DecidableEq, Repr

/-- The group and version of an API version, which are divided at the first slash.  The version
must not be empty. -/
def GroupVersion.parse? (apiVersion : String) : Option GroupVersion :=
  let text := apiVersion.toList
  let first := text.takeWhile (· ≠ '/')
  let parsed : GroupVersion :=
    match text.drop first.length with
    | [] => ⟨"", apiVersion⟩
    | _ :: rest => ⟨String.ofList first, String.ofList rest⟩
  if parsed.version.isEmpty then none else some parsed

example : GroupVersion.parse? "apps/v1" = some ⟨"apps", "v1"⟩ := by decide +kernel
example : GroupVersion.parse? "/v1" = some ⟨"", "v1"⟩ := by decide +kernel
example : GroupVersion.parse? "apps/" = none := by decide +kernel

end Reconciler
