import Reconciler.Yaml.Cursor
/-!
Gaps inside a scalar that is written over several lines.  A single line break is folded into a
space; of several, the first one is dropped.  Blanks at the end and at the beginning of a line do
not count.
-/
namespace Reconciler.Yaml

/-- A gap between two words of a scalar. -/
structure Gap where
  /-- Whether the gap begins with a line break that was escaped and so does not count. -/
  joined : Bool := false
  /-- The blanks before the first line break, last one first. -/
  blanks : List Char := []
  /-- The line breaks, last one first. -/
  breaks : List Char := []

namespace Gap

/-- Whether the gap reaches over the end of a line. -/
def isBroken (gap : Gap) : Bool :=
  gap.joined || !gap.breaks.isEmpty

/-- What the gap contributes to the text. -/
def text (gap : Gap) : List Char :=
  match gap.joined, gap.breaks.reverse with
  | true, breaks => breaks
  | false, [] => gap.blanks.reverse
  | false, ['\n'] => [' ']
  | false, '\n' :: breaks => breaks
  | false, breaks => breaks

/-- Read a gap.  On a continued line, no tab may stand before the column `indent`. -/
def read (indent : Nat) : Nat → Gap → Cursor → Except Error (Gap × Cursor)
  | 0, gap, cursor => .ok (gap, cursor)
  | fuel + 1, gap, cursor =>
    match cursor.rest with
    | [] => .ok (gap, cursor)
    | c :: _ =>
      if isBlank c then
        if gap.isBroken then
          if c = '\t' && cursor.column < indent then .error .token
          else read indent fuel gap (cursor.skip 1)
        else read indent fuel { gap with blanks := c :: gap.blanks } (cursor.skip 1)
      else
        match cursor.skipBreak? with
        | some (b, cursor) => read indent fuel { gap with breaks := b :: gap.breaks } cursor
        | none => .ok (gap, cursor)

end Gap

end Reconciler.Yaml
