import Reconciler.Yaml.Node
import Reconciler.Yaml.Token.Lexer
/-!
The documents of a stream.  A stream may hold several, each with directives of its own; the first
malformed place ends it.
-/
namespace Reconciler.Yaml

/-- What is known while the nodes of a document are put together. -/
structure Reader where
  tokens : List Token
  /-- The anchors of the document, with their numbers. -/
  anchors : List (String × Nat) := []

/-- An action that takes tokens. -/
abbrev Reading := StateT Reader (Except Error)

namespace Reading

/-- The next token. -/
def peek : Reading Token := do
  match (← get).tokens with
  | token :: _ => return token
  | [] => throw .token

/-- Take the next token. -/
def skip : Reading Unit :=
  modify fun reader => { reader with tokens := reader.tokens.drop 1 }

/-- Take the next token if it is a certain one. -/
def skipIf (token : Token) : Reading Bool := do
  if (← peek) = token then
    skip
    return true
  return false

/-- Demand a certain token. -/
def expect (token : Token) : Reading Unit := do
  if !(← skipIf token) then throw .order

/-- The number of a new anchor.  An anchor may be used again for a later node; numbers count the
different names before it. -/
def number (name : String) : Reading Nat := do
  let anchors := (← get).anchors
  let id := anchors.length
  modify ({ · with anchors := (name, id) :: anchors.filter (·.1 ≠ name) })
  return id

/-- The tag that is meant, given what the handles stand for. -/
def resolveTag (handles : List (String × List UInt8)) (tag : TagToken) : Reading Tag :=
  match tag.handle with
  | none => return ⟨tag.rest⟩
  | some handle =>
    match handles.find? (·.1 = handle) with
    | some (_, meaning) => return ⟨meaning ++ tag.rest⟩
    | none => throw .order

/-- What stands in front of a node: an anchor and a tag in any order, each at most once. -/
def properties (handles : List (String × List UInt8)) : Reading Properties := do
  match ← peek with
  | .anchor name =>
    skip
    let token ← peek
    let tag ← tagOf token
    return ⟨some (← number name), tag⟩
  | .tag tag =>
    skip
    let anchor? ← peek
    if let .anchor _ := anchor? then skip
    let tag ← resolveTag handles tag
    match anchor? with
    | .anchor name => return ⟨some (← number name), some tag⟩
    | _ => return ⟨none, some tag⟩
  | _ => return {}
where
  /-- The tag of a token, which is taken if it is one. -/
  tagOf : Token → Reading (Option Tag)
    | .tag tag => do
      skip
      return some (← resolveTag handles tag)
    | _ => return none

/-- A scalar with properties; a tag that says nothing counts as none. -/
def scalar (properties : Properties) (text : String) (plain : Bool) : WrittenNode :=
  if properties.tag = some .unspecific then .scalar { properties with tag := none } text plain
  else .scalar properties text plain

mutual

/-- Read a node; `inBlock` says whether block collections may begin here, `indentless` whether the
items of a list need not be indented. -/
def node (handles : List (String × List UInt8)) (inBlock indentless : Bool) :
    Nat → Reading WrittenNode
  | 0 => throw .order
  | fuel + 1 => do
    if let .alias name ← peek then
      skip
      match (← get).anchors.find? (·.1 = name) with
      | some (_, anchor) => return .alias anchor
      | none => throw .unknownAnchor
    let properties ← properties handles
    match ← peek, inBlock, indentless with
    | .blockEntry, _, true => return .sequence properties (← looseItems handles fuel)
    | .scalar text plain, _, _ =>
      skip
      return scalar properties text plain
    | .flowSequenceStart, _, _ =>
      skip
      return .sequence properties (← flowItems handles true fuel)
    | .flowMappingStart, _, _ =>
      skip
      return .mapping properties (← flowPairs handles true fuel)
    | .blockSequenceStart, true, _ =>
      skip
      return .sequence properties (← blockItems handles fuel)
    | .blockMappingStart, true, _ =>
      skip
      return .mapping properties (← blockPairs handles fuel)
    | _, _, _ =>
      if properties = {} then throw .order
      return .empty properties

/-- Read a node, or an empty one if one of some tokens follows. -/
def nodeUnless (handles : List (String × List UInt8)) (inBlock indentless : Bool)
    (closing : List Token) : Nat → Reading WrittenNode
  | 0 => throw .order
  | fuel + 1 => do
    if (← peek) ∈ closing then return .empty {}
    node handles inBlock indentless fuel

/-- Read the items of an indented list. -/
def blockItems (handles : List (String × List UInt8)) : Nat → Reading (List WrittenNode)
  | 0 => throw .order
  | fuel + 1 => do
    if ← skipIf .blockEntry then
      let item ← nodeUnless handles true false [.blockEntry, .blockEnd] fuel
      return item :: (← blockItems handles fuel)
    expect .blockEnd
    return []

/-- Read the items of a list that is not indented. -/
def looseItems (handles : List (String × List UInt8)) : Nat → Reading (List WrittenNode)
  | 0 => throw .order
  | fuel + 1 => do
    if ← skipIf .blockEntry then
      let item ← nodeUnless handles true false [.blockEntry, .key, .value, .blockEnd] fuel
      return item :: (← looseItems handles fuel)
    return []

/-- Read the pairs of an indented mapping. -/
def blockPairs (handles : List (String × List UInt8)) :
    Nat → Reading (List (WrittenNode × WrittenNode))
  | 0 => throw .order
  | fuel + 1 => do
    if ← skipIf .key then
      let key ← nodeUnless handles true true [.key, .value, .blockEnd] fuel
      let value ←
        if ← skipIf .value then nodeUnless handles true true [.key, .value, .blockEnd] fuel
        else pure (.empty {})
      return (key, value) :: (← blockPairs handles fuel)
    expect .blockEnd
    return []

/-- Read the items of a list in brackets. -/
def flowItems (handles : List (String × List UInt8)) (first : Bool) :
    Nat → Reading (List WrittenNode)
  | 0 => throw .order
  | fuel + 1 => do
    if ← skipIf .flowSequenceEnd then return []
    if !first then
      expect .flowEntry
      if ← skipIf .flowSequenceEnd then return []
    let item ←
      if ← skipIf .key then singlePair handles fuel
      else node handles false false fuel
    return item :: (← flowItems handles false fuel)

/-- Read the only pair of a mapping without braces.  Where its key is missing, one token is
passed over. -/
def singlePair (handles : List (String × List UInt8)) : Nat → Reading WrittenNode
  | 0 => throw .order
  | fuel + 1 => do
    let key ←
      if (← peek) ∈ [.value, .flowEntry, .flowSequenceEnd] then do
        skip
        pure (.empty {})
      else node handles false false fuel
    let value ←
      if ← skipIf .value then
        nodeUnless handles false false [.flowEntry, .flowSequenceEnd] fuel
      else pure (.empty {})
    return .mapping {} [(key, value)]

/-- Read the pairs of a mapping in braces. -/
def flowPairs (handles : List (String × List UInt8)) (first : Bool) :
    Nat → Reading (List (WrittenNode × WrittenNode))
  | 0 => throw .order
  | fuel + 1 => do
    if ← skipIf .flowMappingEnd then return []
    if !first then
      expect .flowEntry
      if ← skipIf .flowMappingEnd then return []
    let pair ←
      if ← skipIf .key then do
        let key ← nodeUnless handles false false [.value, .flowEntry, .flowMappingEnd] fuel
        let value ←
          if ← skipIf .value then
            nodeUnless handles false false [.flowEntry, .flowMappingEnd] fuel
          else pure (.empty {})
        pure (key, value)
      else do
        pure (← node handles false false fuel, .empty {})
    return pair :: (← flowPairs handles false fuel)

end

/-- What the handles stand for that every document knows. -/
def commonHandles : List (String × List UInt8) :=
  [("!", Tag.unspecific.octets), ("!!", (Tag.ofCommon "").octets)]

/-- Read the directives of a document: what its handles stand for.  A directive must not be
repeated, and only versions 1.1 and 1.2 are understood. -/
def directives (versioned : Bool) (handles : List (String × List UInt8)) :
    Nat → Reading (List (String × List UInt8))
  | 0 => throw .order
  | fuel + 1 => do
    match ← peek with
    | .version major minor =>
      if versioned || major ≠ 1 || !(minor = 1 || minor = 2) then throw .order
      skip
      directives true handles fuel
    | .tagHandle handle meaning =>
      if handles.any (·.1 = handle) then throw .order
      skip
      directives versioned (handles ++ [(handle, meaning)]) fuel
    | _ => return handles ++ commonHandles

/-- Whether a token is a directive. -/
def isDirective : Token → Bool
  | .version .. | .tagHandle .. => true
  | _ => false

/-- Read the content of a document behind its marker, which may be missing. -/
def content (handles : List (String × List UInt8)) (fuel : Nat) : Reading WrittenNode := do
  let token ← peek
  if isDirective token || token ∈ [.documentStart, .documentEnd, .streamEnd] then
    return .empty {}
  node handles true false fuel

/-- Take the markers that end a document, as many as there are. -/
def skipEnds : Nat → Reading Unit
  | 0 => return ()
  | fuel + 1 => do
    if ← skipIf .documentEnd then skipEnds fuel

/-- Read the next document, if there is one.  Only the first one may do without a marker that
starts it. -/
def document? (first : Bool) : Reading (Option WrittenNode) := do
  let fuel := 3 * (← get).tokens.length + 3
  modify ({ · with anchors := [] })
  if !first then skipEnds fuel
  let token ← peek
  if token = .streamEnd then return none
  let root ←
    if first && !isDirective token && token ≠ .documentStart then
      node commonHandles true false fuel
    else do
      let handles ← directives false [] fuel
      expect .documentStart
      content handles fuel
  discard (skipIf .documentEnd)
  return some root

/-- Read the documents up to the end or to the first malformed one. -/
def documents (first : Bool) : Nat → Reader → List (Except Error WrittenNode)
  | 0, _ => []
  | fuel + 1, reader =>
    match (document? first).run reader with
    | .error error => [.error error]
    | .ok (none, _) => []
    | .ok (some root, reader) => .ok root :: documents false fuel reader

end Reading

/-- The documents of a text, up to the first malformed one.  A text without any has an empty
document. -/
def documents (text : String) : List (Except Error Node) :=
  let tokens := Token.ofText text
  match Reading.documents true (tokens.length + 2) { tokens } with
  | [] => [.ok (.scalar none "" true)]
  | roots => roots.map fun root => root.bind WrittenNode.expand

end Reconciler.Yaml
