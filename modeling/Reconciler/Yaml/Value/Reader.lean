import Reconciler.Yaml.Document
import Reconciler.Yaml.Scalar
/-!
The values of nodes.  A tag of a common type on a scalar demands that type, a local tag becomes
part of the value, and every other tag is passed over.  No key of a mapping may occur twice.
-/
namespace Reconciler.Yaml

namespace Scalar

/-- The value that is there, or an error about the tag. -/
def demanded (value : Option Value) : Except Error Value :=
  match value with
  | some value => .ok value
  | none => .error .tag

/-- The value of a scalar, without regard to local tags. -/
def value (tag : Option Tag) (text : String) (plain : Bool) : Except Error Value :=
  match tag with
  | none => if plain then resolve text else .ok (.str text)
  | some tag =>
    if tag = .ofCommon "bool" then demanded ((bool? text).map .bool)
    else if tag = .ofCommon "int" then (whole? text).getD (.error .tag)
    else if tag = .ofCommon "float" then demanded ((float? text).map .float)
    else if tag = .ofCommon "null" then demanded (if isNull text then some .null else none)
    else if tag.isLocal && plain then resolve text
    else .ok (.str text)

end Scalar

namespace Value

/-- The value with a local tag. -/
def withTag (name : String) (value : Value) : Except Error Value :=
  if name.isEmpty then .error .tag
  else
    let name := if name ≠ "!" && name.startsWith "!" then (name.drop 1).toString else name
    .ok (.tagged name value)

/-- Add a pair to a mapping, whose keys must differ. -/
def addPair (key value : Value) (pairs : List (Value × Value)) :
    Except Error (List (Value × Value)) :=
  if pairs.any fun pair => pair.1.same key then .error .duplicateKey
  else .ok ((key, value) :: pairs)

mutual

/-- The value of a node. -/
def ofNode : Node → Except Error Value
  | .scalar tag text plain =>
    match tag.bind Tag.localName? with
    | some name => do withTag name (← Scalar.value none text plain)
    | none => Scalar.value tag text plain
  | .sequence tag items =>
    match tag.bind Tag.localName? with
    | some name => do withTag name (.seq (← ofNodes items))
    | none => (ofNodes items).map .seq
  | .mapping tag pairs =>
    match tag.bind Tag.localName? with
    | some name => do withTag name (.map (← ofPairs pairs))
    | none => (ofPairs pairs).map .map

/-- The values of nodes. -/
def ofNodes : List Node → Except Error (List Value)
  | [] => .ok []
  | node :: nodes => do return (← ofNode node) :: (← ofNodes nodes)

/-- The pairs of a mapping. -/
def ofPairs : List (Node × Node) → Except Error (List (Value × Value))
  | [] => .ok []
  | (key, value) :: pairs => do addPair (← ofNode key) (← ofNode value) (← ofPairs pairs)

end

/-- The values of the documents of a text, up to the first malformed one. -/
def documents (text : String) : List (Except Error Value) :=
  (Yaml.documents text).map fun document => document.bind ofNode

end Value

end Reconciler.Yaml
