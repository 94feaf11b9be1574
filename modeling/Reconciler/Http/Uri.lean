import Reconciler.Http.Target
/-!
Addresses of servers: a scheme, an authority, and a target.  Only an address with a scheme can have
an authority and a target.  The text of an address shows the path of a server as a slash if it is
empty, and the schemes of the web in lower case.
-/
namespace Reconciler.Http

/-- An address. -/
structure Uri where
  scheme : Option String := none
  authority : String := ""
  target : String := ""
deriving DecidableEq, Repr

/-- What was seen of an authority; an at sign or the end of a bracket lets colons and percent signs
before it be forgotten. -/
structure AuthorityScan where
  colons : Nat := 0
  opened : Bool := false
  closed : Bool := false
  percent : Bool := false
  /-- Whether nothing stands behind an at sign. -/
  afterAt : Bool := false

namespace Uri

/-- The longest address. -/
def maxSize : Nat := 65534

/-- The longest scheme. -/
def maxSchemeLength : Nat := 64

/-- Whether a character may stand in a scheme. -/
def isSchemeChar (c : Char) : Bool :=
  c.isAlphanum || c = '+' || c = '-' || c = '.'

/-- Whether a character may stand anywhere in an authority. -/
def isAuthorityChar (c : Char) : Bool :=
  c.isAlphanum ||
    c ∈ ['!', '$', '&', '\'', '(', ')', '*', '+', ',', '-', '.', ';', '=', '_', '~']

/-- Split the scheme off.  A scheme of the web is written in lower case; one that is too long makes
the address malformed. -/
def splitScheme? (text : List Char) : Option (Option String × List Char) :=
  let name := text.takeWhile isSchemeChar
  match text.drop name.length with
  | ':' :: '/' :: '/' :: rest =>
    let lower := String.ofList (name.map Char.toLower)
    if lower = "http" || lower = "https" then some (some lower, rest)
    else if text.length ≤ 3 then some (none, text)
    else if maxSchemeLength < name.length then none
    else some (some (String.ofList name), rest)
  | _ => some (none, text)

/-- Whether an authority is well-formed, after a part of it was seen. -/
def checkAuthority : AuthorityScan → List Char → Bool
  | seen, [] => seen.opened = seen.closed && seen.colons ≤ 1 && !seen.afterAt && !seen.percent
  | seen, c :: rest =>
    let next := { seen with afterAt := false }
    if c = ':' then
      seen.colons < 8 && checkAuthority { next with colons := seen.colons + 1 } rest
    else if c = '[' then
      !seen.percent && !seen.opened && checkAuthority { next with opened := true } rest
    else if c = ']' then
      seen.opened && !seen.closed &&
        checkAuthority { next with closed := true, colons := 0, percent := false } rest
    else if c = '@' then
      checkAuthority { seen with colons := 0, percent := false, afterAt := true } rest
    else if c = '%' then checkAuthority { next with percent := true } rest
    else isAuthorityChar c && checkAuthority next rest

/-- The address with a text, if it is well-formed. -/
def parse? (text : String) : Option Uri :=
  let chars := text.toList
  if maxSize < text.utf8ByteSize then none
  else if chars.isEmpty then none
  else if chars.head? = some '/' then (target? text).map fun target => { target }
  else if text = "*" then some { target := text }
  else do
    let (scheme, rest) ← splitScheme? chars
    let authority := rest.takeWhile fun c => c ≠ '/' && c ≠ '?' && c ≠ '#'
    let after := rest.drop authority.length
    if authority.isEmpty || !checkAuthority {} authority then none
    else if scheme.isNone && !after.isEmpty then none
    else
      return {
        scheme
        authority := String.ofList authority
        target := ← target? (String.ofList after) }

/-- The text of an address. -/
def text (uri : Uri) : String :=
  let path := uri.target.toList.takeWhile (· ≠ '?')
  let query := uri.target.toList.drop path.length
  let shown := if path.isEmpty && (uri.scheme.isSome || !query.isEmpty) then ['/'] else path
  (uri.scheme.map (· ++ "://")).getD "" ++ uri.authority ++ String.ofList (shown ++ query)

end Uri

end Reconciler.Http
