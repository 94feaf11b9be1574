import Reconciler.Yaml.Text.Block
import Reconciler.Yaml.Text.Plain
import Reconciler.Yaml.Text.Quoted
import Reconciler.Yaml.Token.Directive
/-!
Splitting a text into tokens.  That something is the key of a mapping shows only at the colon that
follows it, on the same line; so a token that may begin a key is held back until that is decided.
-/
namespace Reconciler.Yaml

/-- A place where the key of a mapping may begin. -/
structure KeyPlace where
  /-- The number of the token that begins there. -/
  token : Nat
  /-- Whether nothing else than a key can begin there. -/
  required : Bool
  index : Nat
  line : Nat
  column : Nat

/-- What is known while a text is split. -/
structure Lexer where
  cursor : Cursor
  /-- The place of a key on the current level of flow collections, if there is one. -/
  place : Option KeyPlace := none
  /-- The places on the outer levels, innermost first. -/
  outer : List (Option KeyPlace) := []
  /-- The column of the current block collection, -1 outside of all. -/
  indent : Int := -1
  /-- The columns of the block collections around it, innermost first. -/
  indents : List Int := []
  /-- Whether a key may begin here. -/
  keyAllowed : Bool := true
  /-- The tokens that are held back. -/
  held : List Token := []
  /-- How many tokens have been handed out. -/
  released : Nat := 0

namespace Lexer

/-- Whether the position is inside of a flow collection. -/
def inFlow (lexer : Lexer) : Bool :=
  !lexer.outer.isEmpty

/-- Add a token. -/
def push (lexer : Lexer) (token : Token) : Lexer :=
  { lexer with held := lexer.held ++ [token] }

/-- Insert a token before the token with a number. -/
def insertAt (lexer : Lexer) (number : Nat) (token : Token) : Lexer :=
  { lexer with held := lexer.held.insertIdx (number - lexer.released) token }

/-- Whether a place can no longer be that of a key: keys are on one line, and not too long. -/
def isStale (lexer : Lexer) (place : KeyPlace) : Bool :=
  place.line < lexer.cursor.line || place.index + 1024 < lexer.cursor.index

/-- Drop a place that can no longer be that of a key. -/
def withoutStale (lexer : Lexer) : Option KeyPlace → Except Error (Option KeyPlace)
  | none => .ok none
  | some place =>
    if !lexer.isStale place then .ok (some place)
    else if place.required then .error .token
    else .ok none

/-- Drop the places that can no longer be those of keys. -/
def dropStale (lexer : Lexer) : Except Error Lexer := do
  let outer ← lexer.outer.mapM lexer.withoutStale
  let place ← lexer.withoutStale lexer.place
  return { lexer with outer, place }

/-- Give up the place on the current level. -/
def dropPlace (lexer : Lexer) : Except Error Lexer :=
  if lexer.place.any (·.required) then .error .token else .ok { lexer with place := none }

/-- Note that a key may begin here, if it may. -/
def notePlace (lexer : Lexer) : Except Error Lexer :=
  if !lexer.keyAllowed then .ok lexer
  else do
    let cursor := lexer.cursor
    let place : KeyPlace :=
      { token := lexer.released + lexer.held.length
        required := !lexer.inFlow && lexer.indent = cursor.column
        index := cursor.index
        line := cursor.line
        column := cursor.column }
    return { ← lexer.dropPlace with place := some place }

/-- Begin a block collection at a column, if it is indented more than the current one. -/
def beginBlock (lexer : Lexer) (column : Nat) (number : Option Nat) (token : Token) : Lexer :=
  if lexer.inFlow || (column : Int) ≤ lexer.indent then lexer
  else
    let lexer := { lexer with indents := lexer.indent :: lexer.indents, indent := column }
    match number with
    | some number => lexer.insertAt number token
    | none => lexer.push token

/-- End the block collections that are indented more than a column. -/
def endBlocks (lexer : Lexer) (column : Int) : Lexer :=
  if lexer.inFlow then lexer
  else go lexer.indents lexer
where
  /-- End the block collections, given the columns around the current one. -/
  go : List Int → Lexer → Lexer
    | [], lexer => lexer
    | outer :: indents, lexer =>
      if column < lexer.indent then
        go indents { lexer.push .blockEnd with indent := outer, indents }
      else lexer

/-- Go to the next token, past gaps and comments. -/
def skipGap : Nat → Lexer → Lexer
  | 0, lexer => lexer
  | fuel + 1, lexer =>
    let cursor := lexer.cursor
    let cursor :=
      if cursor.index = 0 && cursor.rest.head? = some '\ufeff' then cursor.skip 1 else cursor
    let cursor := (cursor.skipWhile fun c =>
      c = ' ' || (c = '\t' && (lexer.inFlow || !lexer.keyAllowed))).skipComment
    match cursor.skipBreak? with
    | some (_, cursor) =>
      skipGap fuel { lexer with cursor, keyAllowed := lexer.keyAllowed || !lexer.inFlow }
    | none => { lexer with cursor }

/-- Read an indicator of one character. -/
def indicator (lexer : Lexer) (token : Token) (keyAllowed : Bool) : Lexer :=
  { lexer.push token with cursor := lexer.cursor.skip 1, keyAllowed }

/-- Read the end of the text, which also ends the last line. -/
def readEnd (lexer : Lexer) : Except Error Lexer := do
  let lexer ← (lexer.endBlocks (-1)).dropPlace
  let cursor := { lexer.cursor with line := lexer.cursor.line + 1, column := 0 }
  return { lexer.push .streamEnd with cursor, keyAllowed := false }

/-- Read a marker between documents. -/
def readMark (lexer : Lexer) (token : Token) : Except Error Lexer := do
  let lexer ← (lexer.endBlocks (-1)).dropPlace
  return { lexer.push token with cursor := lexer.cursor.skip 3, keyAllowed := false }

/-- Read a directive. -/
def readDirective (lexer : Lexer) : Except Error Lexer := do
  let lexer ← (lexer.endBlocks (-1)).dropPlace
  let (token, cursor) ← Directive.read lexer.cursor
  return { lexer.push token with cursor, keyAllowed := false }

/-- Read the beginning of a flow collection. -/
def readFlowStart (lexer : Lexer) (token : Token) : Except Error Lexer := do
  let lexer ← lexer.notePlace
  let lexer := { lexer with outer := lexer.place :: lexer.outer, place := none }
  return lexer.indicator token true

/-- Read the end of a flow collection. -/
def readFlowEnd (lexer : Lexer) (token : Token) : Except Error Lexer := do
  let lexer ← lexer.dropPlace
  let lexer := match lexer.outer with
    | place :: outer => { lexer with place, outer }
    | [] => lexer
  return lexer.indicator token false

/-- Begin a block collection here, where that is allowed. -/
def beginBlockHere (lexer : Lexer) (token : Token) : Except Error Lexer :=
  if lexer.inFlow then .ok lexer
  else if !lexer.keyAllowed then .error .token
  else .ok (lexer.beginBlock lexer.cursor.column none token)

/-- Read the indicator of an item. -/
def readBlockEntry (lexer : Lexer) : Except Error Lexer := do
  let lexer ← (← lexer.beginBlockHere .blockSequenceStart).dropPlace
  return lexer.indicator .blockEntry true

/-- Read the indicator of a key. -/
def readKey (lexer : Lexer) : Except Error Lexer := do
  let lexer ← (← lexer.beginBlockHere .blockMappingStart).dropPlace
  return lexer.indicator .key (!lexer.inFlow)

/-- Read the indicator of a value.  What stands before it on the line was a key. -/
def readValue (lexer : Lexer) : Except Error Lexer :=
  match lexer.place with
  | some place =>
    let lexer := (lexer.insertAt place.token .key).beginBlock place.column place.token
      .blockMappingStart
    .ok ({ lexer with place := none }.indicator .value false)
  | none => do
    let lexer ← lexer.beginBlockHere .blockMappingStart
    return lexer.indicator .value (!lexer.inFlow)

/-- Read the name of an anchor, with its indicator. -/
def readName (lexer : Lexer) (token : String → Token) : Except Error Lexer := do
  let lexer ← lexer.notePlace
  let cursor := lexer.cursor.skip 1
  let name := cursor.rest.takeWhile isWord
  let cursor := cursor.skip name.length
  if name.isEmpty || !(beginsGap cursor.rest || cursor.rest.head?.any fun c =>
      c ∈ ['?', ':', ',', ']', '\x7d', '%', '@', '\x60']) then throw .token
  return { lexer.push (token (String.ofList name)) with cursor, keyAllowed := false }

/-- Read a tag. -/
def readTag (lexer : Lexer) : Except Error Lexer := do
  let lexer ← lexer.notePlace
  let (tag, cursor) ← TagToken.read lexer.inFlow lexer.cursor
  return { lexer.push (.tag tag) with cursor, keyAllowed := false }

/-- Read a block scalar. -/
def readBlock (lexer : Lexer) (folded : Bool) : Except Error Lexer := do
  let lexer ← lexer.dropPlace
  let (text, cursor) ← Block.read folded lexer.indent lexer.cursor
  return { lexer.push (.scalar (String.ofList text) false) with cursor, keyAllowed := true }

/-- Read a quoted scalar. -/
def readQuoted (lexer : Lexer) (quote : Char) : Except Error Lexer := do
  let lexer ← lexer.notePlace
  let (text, cursor) ← Quoted.read quote lexer.cursor
  return { lexer.push (.scalar (String.ofList text) false) with cursor, keyAllowed := false }

/-- Read a plain scalar. -/
def readPlain (lexer : Lexer) : Except Error Lexer := do
  let lexer ← lexer.notePlace
  let scalar ← Plain.read lexer.inFlow (lexer.indent + 1).toNat lexer.cursor
  return { lexer.push (.scalar (String.ofList scalar.text) true) with
    cursor := scalar.cursor, keyAllowed := scalar.leftLine }

/-- Whether a plain scalar can begin with a character, if other characters follow. -/
def beginsPlain (inFlow : Bool) (c : Char) (rest : List Char) : Bool :=
  if c = '-' then !rest.head?.any isBlank
  else if c = '?' || c = ':' then !inFlow && !beginsGap rest
  else !isGap c && c ∉ [',', '[', ']', '\x7b', '\x7d', '#', '&', '*', '!', '|', '>', '\'', '"', '%',
    '@', '\x60']

/-- Read the token that begins with a character. -/
def readToken (lexer : Lexer) (c : Char) (rest : List Char) : Except Error Lexer :=
  if lexer.cursor.column = 0 && c = '%' then lexer.readDirective
  else if lexer.cursor.atDocumentStart then lexer.readMark .documentStart
  else if lexer.cursor.atDocumentEnd then lexer.readMark .documentEnd
  else if c = '[' then lexer.readFlowStart .flowSequenceStart
  else if c = '\x7b' then lexer.readFlowStart .flowMappingStart
  else if c = ']' then lexer.readFlowEnd .flowSequenceEnd
  else if c = '\x7d' then lexer.readFlowEnd .flowMappingEnd
  else if c = ',' then do return (← lexer.dropPlace).indicator .flowEntry true
  else if c = '-' && beginsGap rest then lexer.readBlockEntry
  else if c = '?' && (lexer.inFlow || beginsGap rest) then lexer.readKey
  else if c = ':' && (lexer.inFlow || beginsGap rest) then lexer.readValue
  else if c = '*' then lexer.readName .alias
  else if c = '&' then lexer.readName .anchor
  else if c = '!' then lexer.readTag
  else if c = '|' && !lexer.inFlow then lexer.readBlock false
  else if c = '>' && !lexer.inFlow then lexer.readBlock true
  else if c = '\'' || c = '"' then lexer.readQuoted c
  else if beginsPlain lexer.inFlow c rest then lexer.readPlain
  else .error .token

/-- Read the next token. -/
def read (lexer : Lexer) : Except Error Lexer := do
  let lexer ← (skipGap (lexer.cursor.rest.length + 1) lexer).dropStale
  let lexer := lexer.endBlocks lexer.cursor.column
  match lexer.cursor.rest with
  | [] => lexer.readEnd
  | c :: rest => lexer.readToken c rest

/-- Whether the next token may turn out to be a key. -/
def isUndecided (lexer : Lexer) : Bool :=
  (lexer.place :: lexer.outer).any fun place => place.any (·.token = lexer.released)

/-- Hand out tokens as far as it is decided whether they are keys. -/
def release (lexer : Lexer) : List Token → List Token × Lexer
  | [] => ([], { lexer with held := [] })
  | token :: rest =>
    if lexer.isUndecided then ([], { lexer with held := token :: rest })
    else
      let (tokens, last) := { lexer with released := lexer.released + 1 }.release rest
      (token :: tokens, last)

/-- Read tokens to the end of the text, or up to the first place that is no token. -/
def readAll : Nat → Lexer → List Token
  | 0, _ => []
  | fuel + 1, lexer =>
    match lexer.read.bind dropStale with
    | .error _ => []
    | .ok lexer =>
      let (tokens, lexer) := lexer.release lexer.held
      if tokens.getLast? = some .streamEnd then tokens else tokens ++ lexer.readAll fuel

end Lexer

/-- The tokens of a text.  If some place of the text is no token, they end before it, and only
otherwise is the last one the end of the text. -/
def Token.ofText (text : String) : List Token :=
  let chars := text.toList
  if chars.all isAllowed then Lexer.readAll (chars.length + 2) { cursor := ⟨chars, 0, 0, 0⟩ }
  else []

end Reconciler.Yaml
