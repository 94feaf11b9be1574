import Reconciler.Yaml.Cursor
/-!
Block scalars: the lines below an indicator that are indented more than their surroundings.  They
are kept as they are, or folded so that a single line break becomes a space; the line breaks at the
end are dropped, kept, or reduced to one.
-/
namespace Reconciler.Yaml.Block

/-- What happens to the line breaks at the end. -/
inductive Chomping where
  | strip
  | clip
  | keep
deriving DecidableEq

/-- The chomping that an indicator stands for. -/
def Chomping.ofChar? (c : Char) : Option Chomping :=
  if c = '+' then some .keep else if c = '-' then some .strip else none

/-- What stands behind the indicator of a block scalar. -/
structure Header where
  chomping : Chomping := .clip
  /-- How much more than its surroundings the text is indented, if that is said. -/
  increment : Option Nat := none

/-- The indentation that a character stands for; a zero is an error. -/
def increment? (c : Char) : Except Error (Option Nat) :=
  if c = '0' then .error .token
  else .ok (if c.isDigit then some (c.toNat - 48) else none)

/-- The header at the beginning of some characters, and its length; its two parts may stand in any
order. -/
def header (chars : List Char) : Except Error (Header × Nat) := do
  let first := chars.head?.getD ' '
  let second := (chars.drop 1).head?.getD ' '
  match Chomping.ofChar? first with
  | some chomping =>
    match ← increment? second with
    | some increment => return (⟨chomping, some increment⟩, 2)
    | none => return (⟨chomping, none⟩, 1)
  | none =>
    match ← increment? first with
    | some increment =>
      match Chomping.ofChar? second with
      | some chomping => return (⟨chomping, some increment⟩, 2)
      | none => return (⟨.clip, some increment⟩, 1)
    | none => return ({}, 0)

/-- Read indentation and empty lines up to a line with text: the breaks, last one first, and the
greatest column that was seen.  Without a known `indent`, all spaces are indentation. -/
def emptyLines (indent : Option Nat) :
    Nat → List Char → Nat → Cursor → Except Error (List Char × Nat × Cursor)
  | 0, breaks, widest, cursor => .ok (breaks, widest, cursor)
  | fuel + 1, breaks, widest, cursor =>
    let spaces := (cursor.rest.takeWhile (· = ' ')).length
    let cursor := cursor.skip ((indent.map fun indent => min spaces (indent - cursor.column)).getD
      spaces)
    let widest := max widest cursor.column
    if cursor.rest.head? = some '\t' && (indent.all fun indent => cursor.column < indent) then
      .error .token
    else
      match cursor.skipBreak? with
      | some (b, cursor) => emptyLines indent fuel (b :: breaks) widest cursor
      | none => .ok (breaks, widest, cursor)

/-- What was read of a block scalar. -/
structure State where
  /-- The text up to the last line, last character first. -/
  text : List Char := []
  /-- The break at the end of the last line, if it has one. -/
  lineBreak : List Char := []
  /-- The breaks of the empty lines after it, last one first. -/
  breaks : List Char
  /-- Whether the last line begins with a blank. -/
  blank : Bool := false

/-- Read the lines with text. -/
def lines (folded : Bool) (indent : Nat) : Nat → State → Cursor → Except Error (State × Cursor)
  | 0, state, cursor => .ok (state, cursor)
  | fuel + 1, state, cursor => do
    if cursor.column ≠ indent || cursor.rest.isEmpty then return (state, cursor)
    let blank := cursor.rest.head?.any isBlank
    let joint :=
      if folded && state.lineBreak = ['\n'] && !state.blank && !blank then
        if state.breaks.isEmpty then [' '] else []
      else state.lineBreak
    let line := cursor.rest.takeWhile fun c => !isBreak c
    let cursor := cursor.skip line.length
    let (lineBreak, cursor) := match cursor.skipBreak? with
      | some (b, cursor) => ([b], cursor)
      | none => ([], cursor)
    let (breaks, _, cursor) ← emptyLines (some indent) (cursor.rest.length + 1) [] 0 cursor
    lines folded indent fuel
      { text := line.reverse ++ state.breaks ++ joint ++ state.text, lineBreak, breaks, blank }
      cursor

/-- Read a block scalar, from its indicator on, in surroundings that are indented by `outer`. -/
def read (folded : Bool) (outer : Int) (cursor : Cursor) : Except Error (List Char × Cursor) := do
  let cursor := cursor.skip 1
  let (header, length) ← header cursor.rest
  let cursor := ((cursor.skip length).skipWhile isBlank).skipComment
  if !beginsBreak cursor.rest then throw .token
  let cursor := cursor.skipBreak
  let stated := header.increment.map fun increment => outer.toNat + increment
  let (breaks, widest, cursor) ← emptyLines stated (cursor.rest.length + 1) [] 0 cursor
  let indent := stated.getD (max widest (max (outer + 1).toNat 1))
  let (state, cursor) ← lines folded indent (cursor.rest.length + 1) { breaks } cursor
  let tail := match header.chomping with
    | .strip => []
    | .clip => state.lineBreak
    | .keep => state.breaks ++ state.lineBreak
  return ((tail ++ state.text).reverse, cursor)

end Reconciler.Yaml.Block
