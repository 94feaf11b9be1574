import Reconciler.Text.Digit
import Reconciler.Yaml.Text.Gap
/-!
Quoted scalars.  In single quotes only the quote itself is escaped, by writing it twice; in double
quotes a backslash escapes characters of all kinds, and also the end of a line.
-/
namespace Reconciler.Yaml.Quoted

/-- The character with a number, if there is one. -/
def character? (n : Nat) : Option Char :=
  if h : n.isValidChar then some (Char.ofNatAux n h) else none

/-- The character that is named by so many hexadecimal digits. -/
def numbered (count : Nat) (rest : List Char) : Except Error (Char × Nat) :=
  let digits := rest.take count
  match if digits.length = count then (Text.number? 16 digits).bind character? else none with
  | some c => .ok (c, count + 1)
  | none => .error .token

/-- What stands after a backslash: the character that is meant, and how many are read for it. -/
def escape : List Char → Except Error (Char × Nat)
  | '0' :: _ => .ok ('\x00', 1)
  | 'a' :: _ => .ok ('\x07', 1)
  | 'b' :: _ => .ok ('\x08', 1)
  | 't' :: _ | '\t' :: _ => .ok ('\t', 1)
  | 'n' :: _ => .ok ('\n', 1)
  | 'v' :: _ => .ok ('\x0b', 1)
  | 'f' :: _ => .ok ('\x0c', 1)
  | 'r' :: _ => .ok ('\r', 1)
  | 'e' :: _ => .ok ('\x1b', 1)
  | ' ' :: _ => .ok (' ', 1)
  | '"' :: _ => .ok ('"', 1)
  | '/' :: _ => .ok ('/', 1)
  | '\\' :: _ => .ok ('\\', 1)
  | 'N' :: _ => .ok ('\u0085', 1)
  | '_' :: _ => .ok ('\u00a0', 1)
  | 'L' :: _ => .ok ('\u2028', 1)
  | 'P' :: _ => .ok ('\u2029', 1)
  | 'x' :: rest => numbered 2 rest
  | 'u' :: rest => numbered 4 rest
  | 'U' :: rest => numbered 8 rest
  | _ => .error .token

/-- Read up to the next gap or the closing quote.  An escaped end of a line begins a gap. -/
def word (quote : Char) : Nat → List Char → Cursor → Except Error (List Char × Gap × Cursor)
  | 0, text, cursor => .ok (text, {}, cursor)
  | fuel + 1, text, cursor =>
    match cursor.rest with
    | [] => .ok (text, {}, cursor)
    | c :: rest =>
      if isGap c then .ok (text, {}, cursor)
      else if c = '\'' && quote = '\'' && rest.head? = some '\'' then
        word quote fuel ('\'' :: text) (cursor.skip 2)
      else if c = quote then .ok (text, {}, cursor)
      else if c = '\\' && quote = '"' then
        if rest.head?.any isBreak then
          .ok (text, { joined := true }, (cursor.skip 1).skipBreak)
        else
          match escape rest with
          | .ok (escaped, count) => word quote fuel (escaped :: text) (cursor.skip (count + 1))
          | .error error => .error error
      else word quote fuel (c :: text) (cursor.skip 1)

/-- Read words and gaps up to the closing quote; `text` was read before, last character first. -/
def words (quote : Char) : Nat → List Char → Cursor → Except Error (List Char × Cursor)
  | 0, _, _ => .error .token
  | fuel + 1, text, cursor => do
    if cursor.atDocumentMark || cursor.rest.isEmpty then throw .token
    let (text, gap, cursor) ← word quote (cursor.rest.length + 1) text cursor
    if cursor.rest.head? = some quote then return (text.reverse, cursor.skip 1)
    let (gap, cursor) ← Gap.read 0 (cursor.rest.length + 1) gap cursor
    words quote fuel (gap.text.reverse ++ text) cursor

/-- Read a quoted scalar, from the opening quote on. -/
def read (quote : Char) (cursor : Cursor) : Except Error (List Char × Cursor) :=
  words quote (cursor.rest.length + 1) [] (cursor.skip 1)

end Reconciler.Yaml.Quoted
