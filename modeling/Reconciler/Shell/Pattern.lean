/-!
Patterns of the shell: `*` fits any text, `?` any character, and brackets one of some characters.
What is quoted stands for itself.
-/
namespace Reconciler.Shell

/-- A character that may be quoted. -/
structure Glyph where
  char : Char
  quoted : Bool
deriving DecidableEq, Repr

/-- A pattern. -/
abbrev Pattern := List Glyph

namespace Pattern

/-- The text of a pattern. -/
def text (pattern : Pattern) : String :=
  String.ofList (pattern.map (·.char))

/-- Whether a pattern fits more than its own text. -/
def isOpen (pattern : Pattern) : Bool :=
  pattern.any fun glyph => !glyph.quoted && glyph.char ∈ ['*', '?', '[']

/-- Whether a character is among the ones that a text between brackets lists. -/
def lists (c : Char) : List Char → Bool
  | low :: '-' :: high :: rest => (low ≤ c && c ≤ high) || lists c rest
  | other :: rest => c = other || lists c rest
  | [] => false

/-- The characters between brackets, behind the opening one: whether they are excluded, which they
are, and the rest of the pattern. -/
def brackets? (pattern : Pattern) : Option (Bool × List Char × Pattern) :=
  let (excluded, pattern) := match pattern with
    | ⟨'!', false⟩ :: rest => (true, rest)
    | pattern => (false, pattern)
  match pattern with
  | [] => none
  | first :: rest =>
    let more := rest.takeWhile fun glyph => glyph.quoted || glyph.char ≠ ']'
    if more.length = rest.length then none
    else some (excluded, (first :: more).map (·.char), rest.drop (more.length + 1))

/-- Whether a pattern fits all of a text. -/
def fitsWithin : Nat → Pattern → List Char → Bool
  | 0, _, _ => false
  | _, [], text => text.isEmpty
  | fuel + 1, ⟨'*', false⟩ :: rest, text =>
    fitsWithin fuel rest text ||
      !text.isEmpty && fitsWithin fuel (⟨'*', false⟩ :: rest) (text.drop 1)
  | _, _ :: _, [] => false
  | fuel + 1, glyph :: rest, c :: text =>
    if glyph.quoted then glyph.char = c && fitsWithin fuel rest text
    else if glyph.char = '?' then fitsWithin fuel rest text
    else
      match if glyph.char = '[' then brackets? rest else none with
      | some (excluded, chars, rest) => (lists c chars != excluded) && fitsWithin fuel rest text
      | none => glyph.char = c && fitsWithin fuel rest text

/-- Whether a pattern fits all of a text. -/
def fits (pattern : Pattern) (text : String) : Bool :=
  fitsWithin (2 * (pattern.length + text.length) + 1) pattern text.toList

/-- Remove the beginning of a text that a pattern fits, the longest or the shortest one. -/
def trimStart (pattern : Pattern) (longest : Bool) (text : String) : String :=
  let chars := text.toList
  let lengths := List.range (chars.length + 1)
  let found := (if longest then lengths.reverse else lengths).find? fun length =>
    pattern.fits (String.ofList (chars.take length))
  String.ofList (chars.drop (found.getD 0))

/-- Remove the end of a text that a pattern fits, the longest or the shortest one. -/
def trimEnd (pattern : Pattern) (longest : Bool) (text : String) : String :=
  let chars := text.toList
  let lengths := List.range (chars.length + 1)
  let found := (if longest then lengths else lengths.reverse).find? fun length =>
    pattern.fits (String.ofList (chars.drop length))
  String.ofList (chars.take (found.getD chars.length))

/-- Split a pattern at slashes. -/
def splitPath (pattern : Pattern) : List Pattern :=
  pattern.foldr (fun glyph parts =>
    if glyph.char = '/' then [] :: parts
    else match parts with
      | [] => [[glyph]]
      | part :: rest => (glyph :: part) :: rest) [[]]

end Pattern

end Reconciler.Shell
