import Reconciler.Text.Digit
import Reconciler.Yaml.Token
/-!
Directives: lines in front of a document that state the version of the format, or what a handle of
tags stands for.
-/
namespace Reconciler.Yaml.Directive

/-- Read a number of at most nine digits. -/
def number (cursor : Cursor) : Except Error (Nat × Cursor) :=
  let digits := cursor.rest.takeWhile Char.isDigit
  if digits.isEmpty || 9 < digits.length then .error .token
  else .ok (Text.natOfDigits digits, cursor.skip digits.length)

/-- Read the version of the format. -/
def version (cursor : Cursor) : Except Error (Token × Cursor) := do
  let (major, cursor) ← number (cursor.skipWhile isBlank)
  if cursor.rest.head? ≠ some '.' then throw .token
  let (minor, cursor) ← number (cursor.skip 1)
  return (.version major minor, cursor)

/-- Read a handle and what it stands for. -/
def tagHandle (cursor : Cursor) : Except Error (Token × Cursor) := do
  let cursor := cursor.skipWhile isBlank
  let handle := TagToken.readHandle cursor
  if handle.isEmpty || !(handle.length = 1 || TagToken.isComplete handle) then throw .token
  let cursor := cursor.skip handle.length
  if !cursor.rest.head?.any isBlank then throw .token
  let (octets, cursor) ← TagToken.remainder TagToken.isFullTagChar [] (cursor.skipWhile isBlank)
  if octets.isEmpty || !beginsGap cursor.rest then throw .token
  return (.tagHandle (String.ofList handle) octets, cursor)

/-- Read a directive, from its percent sign on, with the line break behind it. -/
def read (cursor : Cursor) : Except Error (Token × Cursor) := do
  let cursor := cursor.skip 1
  let name := cursor.rest.takeWhile isWord
  let cursor := cursor.skip name.length
  if name.isEmpty || !beginsGap cursor.rest then throw .token
  let (token, cursor) ←
    if name = "YAML".toList then version cursor
    else if name = "TAG".toList then tagHandle cursor
    else throw .token
  let cursor := (cursor.skipWhile isBlank).skipComment
  if !beginsBreak cursor.rest then throw .token
  return (token, cursor.skipBreak)

end Reconciler.Yaml.Directive
