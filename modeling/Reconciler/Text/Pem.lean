import Reconciler.Text.Base64
import Reconciler.Text.Blank
/-!
Blocks of octets between lines that name what they are, such as certificates.  Text outside of the
blocks is passed over, and so is a block that never ends.
-/
namespace Reconciler.Text.Pem

/-- Cut a text at the first place where a mark stands: what is before it, and what is behind. -/
def cut? (mark : List Char) : List Char → Option (List Char × List Char)
  | [] => none
  | c :: rest =>
    if mark.isPrefixOf (c :: rest) then some ([], (c :: rest).drop mark.length)
    else (cut? mark rest).map fun (before, after) => (c :: before, after)

/-- The octets of a block, given the lines between its ends: a name and a colon begin a line of the
header, which ends with an empty line. -/
def content? (text : List Char) : Option (List UInt8) :=
  let lines := ((String.ofList text).splitOn "\n").map fun line =>
    String.ofList (trimEnd line.toList)
  let (header, body) :=
    match lines.findIdx? (·.isEmpty) with
    | some index =>
      if index + 1 < lines.length then (lines.take index, lines.drop index) else ([], lines)
    | none => ([], lines)
  if header.all (·.contains ':') then Base64.decode? (String.join body).toList else none

/-- The blocks of a text, each with what it is called; `fuel` bounds how many there are. -/
def blocksFrom : Nat → List Char → Option (List (String × List UInt8))
  | 0, _ => some []
  | fuel + 1, text =>
    let found : Option (List Char × List Char × List Char × List Char) := do
      let (_, rest) ← cut? "-----BEGIN ".toList text
      let (opening, rest) ← cut? "-----".toList rest
      let (body, rest) ← cut? "-----END ".toList rest
      let (closing, rest) ← cut? "-----".toList rest
      return (opening, body, closing, rest)
    match found with
    | none => some []
    | some (opening, body, closing, rest) =>
      if opening.isEmpty || opening ≠ closing then none
      else do
        let octets ← content? (trimStart body)
        return (String.ofList opening, octets) :: (← blocksFrom fuel rest)

/-- The blocks of a text, if all of them are well-formed. -/
def blocks? (text : String) : Option (List (String × List UInt8)) :=
  blocksFrom text.length text.toList

end Reconciler.Text.Pem
