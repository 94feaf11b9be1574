import Reconciler.Yaml.Error
/-!
Positions in a text: the characters that follow, and where they stand.  Columns count characters,
and a line ends at any of the line breaks of the format.
-/
namespace Reconciler.Yaml

/-- Whether a character may occur in a text. -/
def isAllowed (c : Char) : Bool :=
  c = '\t' || c = '\n' || c = '\r' || (' ' ≤ c && c ≤ '~') || c = '\u0085' ||
    ('\u00a0' ≤ c && c ≤ '\ufffd') || 0x10000 ≤ c.toNat

/-- Whether a character ends a line. -/
def isBreak (c : Char) : Bool :=
  c = '\n' || c = '\r' || c = '\u0085' || c = '\u2028' || c = '\u2029'

/-- Whether a character separates tokens within a line. -/
def isBlank (c : Char) : Bool :=
  c = ' ' || c = '\t'

/-- Whether a character separates tokens. -/
def isGap (c : Char) : Bool :=
  isBlank c || isBreak c

/-- Whether a character may occur in the name of an anchor. -/
def isWord (c : Char) : Bool :=
  c.isAlphanum || c = '_' || c = '-'

/-- The line break that a reader sees for one that is written: the common ones are all alike. -/
def plainBreak (c : Char) : Char :=
  if c = '\u2028' || c = '\u2029' then c else '\n'

/-- Whether the characters begin with a gap, or there are none. -/
def beginsGap : List Char → Bool
  | [] => true
  | c :: _ => isGap c

/-- Whether the characters begin with a line break, or there are none. -/
def beginsBreak : List Char → Bool
  | [] => true
  | c :: _ => isBreak c

/-- A position in a text. -/
structure Cursor where
  rest : List Char
  index : Nat := 0
  line : Nat := 0
  column : Nat := 0

namespace Cursor

/-- Go past so many characters of a line. -/
def skip (cursor : Cursor) (count : Nat) : Cursor :=
  { cursor with
    rest := cursor.rest.drop count
    index := cursor.index + count
    column := cursor.column + count }

/-- Go past the characters of a line that satisfy a condition. -/
def skipWhile (cursor : Cursor) (p : Char → Bool) : Cursor :=
  cursor.skip (cursor.rest.takeWhile p).length

/-- Go past a line break, if there is one here; a carriage return and a line feed are one break. -/
def skipBreak? (cursor : Cursor) : Option (Char × Cursor) :=
  match cursor.rest with
  | '\r' :: '\n' :: rest => some ('\n', ⟨rest, cursor.index + 2, cursor.line + 1, 0⟩)
  | c :: rest =>
    if isBreak c then some (plainBreak c, ⟨rest, cursor.index + 1, cursor.line + 1, 0⟩) else none
  | [] => none

/-- Go past a line break, if there is one here. -/
def skipBreak (cursor : Cursor) : Cursor :=
  (cursor.skipBreak?.map (·.2)).getD cursor

/-- Go past a comment, if there is one here. -/
def skipComment (cursor : Cursor) : Cursor :=
  if cursor.rest.head? = some '#' then cursor.skipWhile fun c => !isBreak c else cursor

/-- Whether the marker that starts a document stands here. -/
def atDocumentStart (cursor : Cursor) : Bool :=
  cursor.column = 0 && cursor.rest.take 3 = ['-', '-', '-'] && beginsGap (cursor.rest.drop 3)

/-- Whether the marker that ends a document stands here. -/
def atDocumentEnd (cursor : Cursor) : Bool :=
  cursor.column = 0 && cursor.rest.take 3 = ['.', '.', '.'] && beginsGap (cursor.rest.drop 3)

/-- Whether a marker between documents stands here. -/
def atDocumentMark (cursor : Cursor) : Bool :=
  cursor.atDocumentStart || cursor.atDocumentEnd

end Cursor

end Reconciler.Yaml
