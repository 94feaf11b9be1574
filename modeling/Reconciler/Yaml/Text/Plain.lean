import Reconciler.Yaml.Text.Gap
/-!
Plain scalars: text without quotes.  It ends before a comment, a marker between documents, a line
that is not indented enough, and an indicator of the surrounding collection.
-/
namespace Reconciler.Yaml.Plain

/-- The indicators of flow collections. -/
def isFlowIndicator (c : Char) : Bool :=
  c ∈ [',', '[', ']', '\x7b', '\x7d']

/-- The word at the beginning of some characters. -/
def word (inFlow : Bool) : List Char → Except Error (List Char)
  | [] => .ok []
  | c :: rest =>
    if isGap c then .ok []
    else if c = ':' && inFlow && (rest.head?.any fun c => isFlowIndicator c || c = '?') then
      .error .token
    else if (c = ':' && beginsGap rest) || (inFlow && isFlowIndicator c) then .ok []
    else (word inFlow rest).map (c :: ·)

/-- A plain scalar. -/
structure Result where
  text : List Char
  cursor : Cursor
  /-- Whether the scalar was left at the beginning of a later line. -/
  leftLine : Bool

/-- Read words and gaps; `text` was read before, and `gap` follows it. -/
def words (inFlow : Bool) (indent : Nat) :
    Nat → List Char → Gap → Cursor → Except Error Result
  | 0, text, gap, cursor => .ok ⟨text, cursor, gap.isBroken⟩
  | fuel + 1, text, gap, cursor => do
    if cursor.atDocumentMark || cursor.rest.head? = some '#' then
      return ⟨text, cursor, gap.isBroken⟩
    let found ← word inFlow cursor.rest
    let (text, gap) := if found.isEmpty then (text, gap) else (text ++ gap.text ++ found, {})
    let cursor := cursor.skip found.length
    if cursor.rest.isEmpty || !beginsGap cursor.rest then return ⟨text, cursor, gap.isBroken⟩
    let (gap, cursor) ← Gap.read indent (cursor.rest.length + 1) {} cursor
    if !inFlow && cursor.column < indent then return ⟨text, cursor, gap.isBroken⟩
    words inFlow indent fuel text gap cursor

/-- Read a plain scalar whose continued lines begin at column `indent` or later. -/
def read (inFlow : Bool) (indent : Nat) (cursor : Cursor) : Except Error Result :=
  words inFlow indent (cursor.rest.length + 1) [] {} cursor

end Reconciler.Yaml.Plain
