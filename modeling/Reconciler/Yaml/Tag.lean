import Reconciler.Text.Digit
import Reconciler.Text.Utf8
import Reconciler.Yaml.Cursor
/-!
Tags: what says of which type a node is.  A tag is written in full, or as a handle that stands for
the beginning of the tag, followed by the rest of it.  Since any octets can be written with percent
signs, a tag need not be text.
-/
namespace Reconciler.Yaml

/-- A tag. -/
structure Tag where
  octets : List UInt8
deriving DecidableEq

namespace Tag

/-- The tag with a text. -/
def ofText (text : String) : Tag :=
  ⟨Text.Utf8.encode text⟩

/-- The beginning of the tags of the common types. -/
def common : String := "tag:yaml.org,2002:"

/-- The tag of a common type. -/
def ofCommon (name : String) : Tag :=
  ofText (common ++ name)

/-- The tag that says nothing. -/
def unspecific : Tag := ofText "!"

/-- Whether the tag is a local one, which only means something to the reader of the document. -/
def isLocal (tag : Tag) : Bool :=
  tag.octets.head? = some 0x21

/-- The text of a local tag, without the exclamation mark that it begins with. -/
def localName? (tag : Tag) : Option String :=
  if tag.isLocal then Text.Utf8.decode? (tag.octets.drop 1) else none

end Tag

/-- A tag as it is written. -/
structure TagToken where
  /-- The handle; without one the tag is written in full. -/
  handle : Option String
  rest : List UInt8
deriving DecidableEq

namespace TagToken

/-- Whether a character may occur in a tag. -/
def isTagChar (c : Char) : Bool :=
  isWord c || c ∈ [';', '/', '?', ':', '@', '&', '=', '+', '$', '.', '%', '!', '~', '*', '\'',
    '(', ')']

/-- Whether a character may occur in a tag that is written in full. -/
def isFullTagChar (c : Char) : Bool :=
  isTagChar c || c ∈ [',', '[', ']']

/-- The octet behind a percent sign. -/
def percent? : List Char → Option (Nat × List Char)
  | '%' :: high :: low :: rest => do
    let high ← Text.hexValue? high
    let low ← Text.hexValue? low
    return (16 * high + low, rest)
  | _ => none

/-- How many octets a character has that begins with an octet. -/
def width? (octet : Nat) : Option Nat :=
  if octet < 0x80 then some 1
  else if octet < 0xc0 then none
  else if octet < 0xe0 then some 2
  else if octet < 0xf0 then some 3
  else if octet < 0xf8 then some 4
  else none

/-- So many further octets of a character, all behind percent signs. -/
def continued? : Nat → List Char → Option (List UInt8 × List Char)
  | 0, rest => some ([], rest)
  | count + 1, rest => do
    let (octet, rest) ← percent? rest
    if octet < 0x80 ∨ 0xc0 ≤ octet then none
    let (octets, rest) ← continued? count rest
    return (octet.toUInt8 :: octets, rest)

/-- Read the octets of a tag and what follows them. -/
def octets (allowed : Char → Bool) : Nat → List Char → Except Error (List UInt8 × List Char)
  | 0, rest => .ok ([], rest)
  | _, [] => .ok ([], [])
  | fuel + 1, c :: rest =>
    if c = '%' then
      let escaped : Option (List UInt8 × List Char) := do
        let (first, rest) ← percent? (c :: rest)
        let width ← width? first
        let (more, rest) ← continued? (width - 1) rest
        return (first.toUInt8 :: more, rest)
      match escaped with
      | some (first, rest) =>
        (octets allowed fuel rest).map fun (more, rest) => (first ++ more, rest)
      | none => .error .token
    else if allowed c then
      (octets allowed fuel rest).map fun (more, rest) =>
        (Text.Utf8.encode (String.singleton c) ++ more, rest)
    else .ok ([], c :: rest)

/-- Read the rest of a tag, behind `begun`.  A zero octet ends the tag early. -/
def remainder (allowed : Char → Bool) (begun : List Char) (cursor : Cursor) :
    Except Error (List UInt8 × Cursor) := do
  let (read, rest) ← octets allowed (cursor.rest.length + 1) cursor.rest
  let all := Text.Utf8.encode (String.ofList begun) ++ read
  return (all.takeWhile (· ≠ 0), cursor.skip (cursor.rest.length - rest.length))

/-- Read a handle: an exclamation mark, a name, and perhaps another exclamation mark. -/
def readHandle (cursor : Cursor) : List Char :=
  match cursor.rest with
  | '!' :: rest =>
    let name := rest.takeWhile isWord
    '!' :: name ++ (rest.drop name.length).takeWhile (· = '!') |>.take (name.length + 2)
  | _ => []

/-- Whether a handle is complete, so that the rest of the tag follows. -/
def isComplete (handle : List Char) : Bool :=
  1 < handle.length && handle.getLast? = some '!'

/-- Read a tag, from its exclamation mark on. -/
def read (inFlow : Bool) (cursor : Cursor) : Except Error (TagToken × Cursor) := do
  let (token, cursor) ← body
  if (inFlow && cursor.rest.head? = some ',') || beginsGap cursor.rest then return (token, cursor)
  throw .token
where
  /-- Read the tag without looking at what follows. -/
  body : Except Error (TagToken × Cursor) := do
    if (cursor.rest.drop 1).head? = some '<' then
      let (octets, cursor) ← remainder isFullTagChar [] (cursor.skip 2)
      if octets.isEmpty || cursor.rest.head? ≠ some '>' then throw .token
      return (⟨none, octets⟩, cursor.skip 1)
    let found := readHandle cursor
    if isComplete found then
      let (octets, cursor) ← remainder isTagChar [] (cursor.skip found.length)
      if octets.isEmpty then throw .token
      return (⟨some (String.ofList found), octets⟩, cursor)
    let (octets, cursor) ← remainder isTagChar (found.drop 1) (cursor.skip found.length)
    if octets.isEmpty then return (⟨none, Tag.unspecific.octets⟩, cursor)
    return (⟨some "!", octets⟩, cursor)

end TagToken

end Reconciler.Yaml
