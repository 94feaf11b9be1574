import Reconciler.Text.FormEncoding
/-!
Targets of requests: a path and, after a question mark, a query of pairs.  The text of a target is
checked when a request is made; a number sign and what follows it is cut off.
-/
namespace Reconciler.Http

/-- Pairs of names and values. -/
abbrev Query := List (String × String)

/-- The text of a query: every pair, also the first, stands behind an ampersand. -/
def writeQuery (query : Query) : String :=
  String.join (query.map fun pair =>
    "&" ++ Text.FormEncoding.encode pair.1 ++ "=" ++ Text.FormEncoding.encode pair.2)

/-- Whether a character may stand in a query.  Beyond ASCII every character may. -/
def isQueryChar (c : Char) : Bool :=
  let n := c.toNat
  n = 0x21 || (0x24 ≤ n && n ≤ 0x3b) || n = 0x3d || 0x3f ≤ n

/-- Whether a character may stand in a path: those of a query without question mark and grave
accent, and quotation marks. -/
def isPathChar (c : Char) : Bool :=
  (isQueryChar c && c ≠ '?' && c ≠ '\x60') || c = '"'

/-- The target with a text, without the fragment, if it is well-formed. -/
def target? (text : String) : Option String :=
  let kept := text.toList.takeWhile (· ≠ '#')
  let path := kept.takeWhile (· ≠ '?')
  let query := (kept.drop path.length).drop 1
  if path.all isPathChar && query.all isQueryChar then some (String.ofList kept) else none

example : target? "/a b" = none := by decide +kernel
example : target? "/a?&x=1#f" = some "/a?&x=1" := by decide +kernel

end Reconciler.Http
