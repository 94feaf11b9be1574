import Reconciler.Scheme
/-!
References to objects: a key names an object within its kind, and a reference adds the kind without
a version.  References are ordered by group, kind, namespace and name, an object without namespace
before those with one.
-/
namespace Reconciler

/-- The namespace and the name of an object. -/
structure ObjectKey where
  /-- None for an object of the whole cluster. -/
  namespaceName : Option String := none
  name : String
deriving DecidableEq, Repr, Inhabited

namespace ObjectKey

instance : Ord ObjectKey := ⟨compareLex (compareOn namespaceName) (compareOn name)⟩

instance : Std.TransOrd ObjectKey :=
  inferInstanceAs (Std.TransCmp (compareLex (compareOn namespaceName) (compareOn name)))

instance : Std.LawfulEqOrd ObjectKey where
  eq_of_compare {a b} same := by
    have same : (compare a.namespaceName b.namespaceName).then (compare a.name b.name) = .eq :=
      same
    rw [Ordering.then_eq_eq] at same
    have names := Std.LawfulEqOrd.eq_of_compare same.1
    cases a; cases b
    simp_all

/-- The key of an object by its metadata; an empty namespace is none, an unset name is empty. -/
def ofMeta (metadata : ObjectMeta) : ObjectKey :=
  ⟨metadata.namespaceName.filter fun name => !name.isEmpty, metadata.name.getD ""⟩

/-- Taking the empty namespace for none. -/
theorem filter_place (place : Option String) :
    place.filter (fun name => !name.isEmpty) = if place.getD "" = "" then none else place := by
  cases place with
  | none => rfl
  | some name => by_cases hempty : name = "" <;> simp [Option.filter, hempty]

/-- Keys are the same if the names are and the namespaces are, whether unset or empty. -/
theorem ofMeta_eq_ofMeta_iff {left right : ObjectMeta} :
    ofMeta left = ofMeta right ↔
      left.name.getD "" = right.name.getD "" ∧
        left.namespaceName.getD "" = right.namespaceName.getD "" := by
  rw [ofMeta, ofMeta, mk.injEq, filter_place, filter_place, and_comm]
  refine and_congr_right fun _ => ?_
  rcases left.namespaceName with _ | first <;> rcases right.namespaceName with _ | second <;>
    grind

/-- No key of an object has the empty namespace. -/
theorem namespaceName_ofMeta_ne (metadata : ObjectMeta) :
    (ofMeta metadata).namespaceName ≠ some "" := by
  intro hplace
  simp [ofMeta, Option.filter_eq_some_iff] at hplace

/-- The key of an object. -/
def ofObject (object : Object) : ObjectKey :=
  ofMeta object.metadata

/-- The namespace and the name with a slash between, or the name alone. -/
def text (key : ObjectKey) : String :=
  match key.namespaceName with
  | some namespaceName => namespaceName ++ "/" ++ key.name
  | none => key.name

end ObjectKey

/-- A reference to an object, whatever its version. -/
structure ObjectRef where
  groupKind : GroupKind
  key : ObjectKey
deriving DecidableEq, Repr, Inhabited

/-- A request for the object with a key. -/
structure GetRequest where
  /-- The path of the type that the object is wanted in, none for objects of any kind. -/
  type : Option String
  gvk : GroupVersionKind
  key : ObjectKey
deriving DecidableEq, Repr

namespace GetRequest

/-- A request for an object of a type. -/
def typed (scheme : Scheme) (type : ObjectType) (key : ObjectKey) :
    Except SchemeError GetRequest :=
  (scheme.gvk type).map fun gvk => ⟨some type.path, gvk, key⟩

/-- A request for an object of any kind. -/
def dynamic (gvk : GroupVersionKind) (key : ObjectKey) : GetRequest :=
  ⟨none, gvk, key⟩

/-- The request for an object by what it says of itself. -/
def ofObject (scheme : Scheme) :
    (type : ObjectType) → type.Value → Except SchemeError GetRequest
  | .dynamic, object => object.gvk.map fun gvk => dynamic gvk (.ofObject object)
  | type, object => typed scheme type (.ofMeta (type.metadata object))

end GetRequest

namespace ObjectRef

instance : Ord ObjectRef := ⟨compareLex (compareOn groupKind) (compareOn key)⟩

instance : Std.TransOrd ObjectRef :=
  inferInstanceAs (Std.TransCmp (compareLex (compareOn groupKind) (compareOn key)))

instance : Std.LawfulEqOrd ObjectRef where
  eq_of_compare {a b} same := by
    have same : (compare a.groupKind b.groupKind).then (compare a.key b.key) = .eq := same
    rw [Ordering.then_eq_eq] at same
    have kinds := Std.LawfulEqOrd.eq_of_compare same.1
    have keys := Std.LawfulEqOrd.eq_of_compare same.2
    cases a; cases b
    simp_all

/-- The reference to an object of a type. -/
def ofTyped (scheme : Scheme) (type : ObjectType) (object : type.Value) :
    Except SchemeError ObjectRef :=
  (scheme.gvkFor type object).map fun gvk => ⟨gvk.groupKind, .ofMeta (type.metadata object)⟩

/-- The reference to an object of any kind. -/
def ofObject (object : Object) : Except SchemeError ObjectRef :=
  object.gvk.map fun gvk => ⟨gvk.groupKind, .ofObject object⟩

/-- The reference that a request asks for. -/
def ofRequest (request : GetRequest) : ObjectRef :=
  ⟨request.gvk.groupKind, request.key⟩

/-- The kind and the key. -/
def text (reference : ObjectRef) : String :=
  reference.groupKind.text ++ " " ++ reference.key.text

end ObjectRef

/-- A finite set of references. -/
abbrev ObjectRefSet := SortedMap ObjectRef Unit

namespace ObjectRefSet

/-- The set of the references in a list. -/
def ofList (references : List ObjectRef) : ObjectRefSet :=
  SortedMap.ofList (references.map fun reference => (reference, ()))

/-- A set has the references of its list, each once however often it is listed. -/
theorem contains_ofList_iff {references : List ObjectRef} {reference : ObjectRef} :
    (ofList references).contains reference = true ↔ reference ∈ references := by
  rw [ofList, SortedMap.contains_ofList_iff]
  simp

/-- Neither the order of a list nor how often a reference stands in it shows in its set. -/
theorem ofList_congr {left right : List ObjectRef}
    (hsame : ∀ reference, reference ∈ left ↔ reference ∈ right) : ofList left = ofList right := by
  apply SortedMap.ext_contains
  intro reference
  rw [contains_ofList_iff, contains_ofList_iff, hsame]

/-- The set of references to objects of a type. -/
def ofTyped (scheme : Scheme) (type : ObjectType) (objects : List type.Value) :
    Except SchemeError ObjectRefSet :=
  (objects.mapM (ObjectRef.ofTyped scheme type)).map ofList

/-- The references to objects, in order. -/
def refsOfObjects (objects : List Object) : Except SchemeError (List ObjectRef) :=
  objects.mapM ObjectRef.ofObject

/-- The set of references to objects. -/
def ofObjects (objects : List Object) : Except SchemeError ObjectRefSet :=
  (refsOfObjects objects).map ofList

/-- The set of references that requests ask for. -/
def ofRequests (requests : List GetRequest) : ObjectRefSet :=
  ofList (requests.map .ofRequest)

/-- Whether the set has a reference to an object. -/
def references (set : ObjectRefSet) (scheme : Scheme) (type : ObjectType) (object : type.Value) :
    Except SchemeError Bool :=
  (ObjectRef.ofTyped scheme type object).map set.contains

/-- Whether the set has the reference that a request asks for. -/
def referencesRequest (set : ObjectRefSet) (request : GetRequest) : Bool :=
  set.contains (.ofRequest request)

end ObjectRefSet

/-- The different requests among some. -/
def requestSet (requests : List GetRequest) : List GetRequest :=
  requests.eraseDups

end Reconciler
