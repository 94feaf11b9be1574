import Reconciler.Object.Type
import Reconciler.Text.Quoted
/-!
Schemes: which kind each type of object is registered for.  An object of any kind carries its kind
itself and needs no registration.
-/
namespace Reconciler

/-- Why a kind does not resolve, or an object does not convert. -/
inductive SchemeError where
  /-- No kind is registered for the type with a path. -/
  | notRegistered (path : String)
  | missingTypeMeta (name : String)
  | invalidApiVersion (apiVersion : String)
  | kindMismatch (expected found : GroupKind)
  /-- An object does not have the form of its type. -/
  | serialization
deriving DecidableEq, Repr

namespace SchemeError

/-- The text of an error; the text of a failed conversion is not fixed. -/
def message? : SchemeError → Option String
  | .notRegistered path => some ("no kind is registered for type " ++ path)
  | .missingTypeMeta name =>
    some ("object " ++ Text.quoted name ++ " does not specify apiVersion and kind")
  | .invalidApiVersion apiVersion => some ("invalid apiVersion " ++ Text.quoted apiVersion)
  | .kindMismatch expected found =>
    some ("cannot convert " ++ found.text ++ " into " ++ expected.text)
  | .serialization => none

end SchemeError

/-- The group and version of an API version. -/
def GroupVersion.parse (apiVersion : String) : Except SchemeError GroupVersion :=
  match GroupVersion.parse? apiVersion with
  | some parsed => .ok parsed
  | none => .error (.invalidApiVersion apiVersion)

/-- The kind of an object by its type information, of which no part may be empty. -/
def Object.gvk (object : Object) : Except SchemeError GroupVersionKind :=
  match object.types with
  | some types =>
    if types.kind.isEmpty ∨ types.apiVersion.isEmpty then
      .error (.missingTypeMeta (object.metadata.name.getD ""))
    else
      (GroupVersion.parse types.apiVersion).map fun parsed =>
        ⟨parsed.group, parsed.version, types.kind⟩
  | none => .error (.missingTypeMeta (object.metadata.name.getD ""))

/-- The kinds that types are registered for, by the paths of the types. -/
structure Scheme where
  kinds : String → Option GroupVersionKind

namespace Scheme

/-- The scheme without types. -/
def empty : Scheme := ⟨fun _ => none⟩

instance : Inhabited Scheme := ⟨empty⟩

/-- The kind that a type is registered for, if it is registered. -/
def registered (scheme : Scheme) (type : ObjectType) : Option GroupVersionKind :=
  scheme.kinds type.path

/-- Register a type for a kind, in place of the one it has. -/
def register (scheme : Scheme) (type : ObjectType) (gvk : GroupVersionKind) : Scheme :=
  ⟨fun path => if path = type.path then some gvk else scheme.kinds path⟩

/-- Register a type for the kind that it is made for, if it is made for one. -/
def registerOwn (scheme : Scheme) (type : ObjectType) : Scheme :=
  match type.own? with
  | some gvk => scheme.register type gvk
  | none => scheme

/-- The types that are registered by default: all built-in kinds but endpoints. -/
def defaultTypes : List ObjectType :=
  ObjectType.builtIn.filter fun type => type.path ≠ Endpoints.kind.gvk.path

/-- The scheme of the built-in kinds. -/
def defaults : Scheme :=
  defaultTypes.foldl registerOwn empty

/-- Whether a type is registered. -/
def isRegistered (scheme : Scheme) (type : ObjectType) : Bool :=
  (scheme.registered type).isSome

/-- The kind that a type is registered for. -/
def gvk (scheme : Scheme) (type : ObjectType) : Except SchemeError GroupVersionKind :=
  match scheme.registered type with
  | some gvk => .ok gvk
  | none => .error (.notRegistered type.path)

/-- The kind of an object: its own where objects carry one, else that of its type. -/
def gvkFor (scheme : Scheme) :
    (type : ObjectType) → type.Value → Except SchemeError GroupVersionKind
  | .dynamic, object => object.gvk
  | type, _ => scheme.gvk type

/-- Set the type information of a JSON object. -/
def stamp (gvk : GroupVersionKind) : Json → Json
  | .obj fields =>
    .obj (Entries.insert "kind" (.str gvk.kind)
      (Entries.insert "apiVersion" (.str gvk.apiVersion) fields))
  | value => value

/-- The object as an object of any kind, with its type information set. -/
def toDynamic (scheme : Scheme) (type : ObjectType) (object : type.Value) :
    Except SchemeError Object := do
  let gvk ← scheme.gvkFor type object
  match Object.decode? (stamp gvk (type.toJson object)) with
  | some dynamic => return dynamic
  | none => throw .serialization

/-- Whether an object of a kind can be one of a type: it must be registered for the kind, in any
version.  Objects of any kind can be of every kind. -/
def admits (scheme : Scheme) (found : GroupVersionKind) : ObjectType → Except SchemeError Unit
  | .dynamic => .ok ()
  | type => do
    let expected ← scheme.gvk type
    if expected.groupKind ≠ found.groupKind then
      throw (.kindMismatch expected.groupKind found.groupKind)

/-- An object of any kind as an object of a type, which must be registered for its kind in any
version. -/
def fromDynamic (scheme : Scheme) (type : ObjectType) (object : Object) :
    Except SchemeError type.Value := do
  scheme.admits (← object.gvk) type
  match type.decode? object.toJson with
  | some converted => return converted
  | none => throw .serialization

end Scheme

end Reconciler
