import Reconciler.Yaml.Tag
/-!
The nodes of a document.  As written, a node may be an alias that refers to an anchored one; an
expanded node has the anchored node in its place.  Expanding bounds how deep collections are
nested and how often aliases are followed, so that a small document cannot stand for a huge one.
-/
namespace Reconciler.Yaml

/-- A node without aliases.  Whether a scalar is plain decides how its text is understood. -/
inductive Node where
  | scalar (tag : Option Tag) (text : String) (plain : Bool)
  | sequence (tag : Option Tag) (items : List Node)
  | mapping (tag : Option Tag) (pairs : List (Node × Node))
deriving Inhabited

/-- What is written in front of a node. -/
structure Properties where
  /-- The number of its anchor. -/
  anchor : Option Nat := none
  tag : Option Tag := none
deriving DecidableEq

/-- A node as it is written. -/
inductive WrittenNode where
  | alias (anchor : Nat)
  | scalar (properties : Properties) (text : String) (plain : Bool)
  | sequence (properties : Properties) (items : List WrittenNode)
  | mapping (properties : Properties) (pairs : List (WrittenNode × WrittenNode))
deriving Inhabited

namespace WrittenNode

/-- An empty scalar. -/
def empty (properties : Properties) : WrittenNode :=
  .scalar properties "" true

/-- The number of the anchor of a node, with the node. -/
def anchoredBy (properties : Properties) (node : WrittenNode) : List (Nat × WrittenNode) :=
  properties.anchor.toList.map (·, node)

mutual

/-- The anchored nodes, in the order in which they begin. -/
def anchored : WrittenNode → List (Nat × WrittenNode)
  | .alias _ => []
  | .scalar properties text plain => anchoredBy properties (.scalar properties text plain)
  | .sequence properties items =>
    anchoredBy properties (.sequence properties items) ++ anchoredItems items
  | .mapping properties pairs =>
    anchoredBy properties (.mapping properties pairs) ++ anchoredPairs pairs

/-- The anchored nodes of a list. -/
def anchoredItems : List WrittenNode → List (Nat × WrittenNode)
  | [] => []
  | item :: items => anchored item ++ anchoredItems items

/-- The anchored nodes of a mapping. -/
def anchoredPairs : List (WrittenNode × WrittenNode) → List (Nat × WrittenNode)
  | [] => []
  | (key, value) :: pairs => anchored key ++ anchored value ++ anchoredPairs pairs

end

mutual

/-- The size of a node: one for a scalar or an alias, two more than its parts for a collection. -/
def size : WrittenNode → Nat
  | .alias _ | .scalar .. => 1
  | .sequence _ items => 2 + sizeItems items
  | .mapping _ pairs => 2 + sizePairs pairs

/-- The size of the nodes of a list. -/
def sizeItems : List WrittenNode → Nat
  | [] => 0
  | item :: items => size item + sizeItems items

/-- The size of the nodes of a mapping. -/
def sizePairs : List (WrittenNode × WrittenNode) → Nat
  | [] => 0
  | (key, value) :: pairs => size key + size value + sizePairs pairs

end

/-- An action that may follow so many more aliases. -/
abbrev Following := StateT Nat (Except Error)

/-- The node itself, or the one that an alias refers to: the last one with its number. -/
def follow (anchors : List (Nat × WrittenNode)) : WrittenNode → Following WrittenNode
  | .alias anchor => do
    match ← get with
    | 0 => throw .tooManyAliases
    | left + 1 => set left
    match anchors.reverse.find? (·.1 = anchor) with
    | some (_, node) => return node
    | none => throw .unknownAnchor
  | node => return node

/-- The node without aliases; collections may be nested so deep. -/
def expandTo (anchors : List (Nat × WrittenNode)) : Nat → WrittenNode → Following Node
  | 0, node => do
    match ← follow anchors node with
    | .alias _ => throw .unknownAnchor
    | .scalar properties text plain => return .scalar properties.tag text plain
    | .sequence .. | .mapping .. => throw .tooDeep
  | depth + 1, node => do
    match ← follow anchors node with
    | .alias _ => throw .unknownAnchor
    | .scalar properties text plain => return .scalar properties.tag text plain
    | .sequence properties items =>
      return .sequence properties.tag (← items.mapM (expandTo anchors depth))
    | .mapping properties pairs =>
      return .mapping properties.tag (← pairs.mapM fun (key, value) => do
        return (← expandTo anchors depth key, ← expandTo anchors depth value))

/-- How deep collections may be nested. -/
def maxDepth : Nat := 128

/-- How often aliases may be followed for each unit of size. -/
def maxFollowed : Nat := 100

/-- The document without aliases. -/
def expand (root : WrittenNode) : Except Error Node :=
  (expandTo root.anchored maxDepth root).run' (maxFollowed * root.size)

end WrittenNode

end Reconciler.Yaml
