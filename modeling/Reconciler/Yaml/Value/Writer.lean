import Reconciler.Json.Writer
import Reconciler.Yaml.Cursor
import Reconciler.Yaml.Scalar
/-!
Writing YAML values as text.  Collections are written in block style, the items of a list inside a
mapping are not indented, and a text is written without quotes wherever nobody could take it for
something else.
-/
namespace Reconciler.Yaml.Value

namespace Writer

/-- Whether a character can be written as it is. -/
def isPrintable (c : Char) : Bool :=
  (' ' ≤ c && c ≤ '~') || ('\u00a0' ≤ c && c ≤ '\ufffd' && c ≠ '\ufeff' && !isBreak c) ||
    0x10000 ≤ c.toNat

/-- Whether a text could be taken for something else by some reader. -/
def isAmbiguous (text : String) : Bool :=
  let lower := text.toLower
  lower.isEmpty || (Scalar.bool? lower).isSome || Scalar.isNull lower ||
    lower.front.isDigit || lower.front ∈ ['-', '.', '+'] ||
    lower ∈ ["y", "yes", "n", "no", "on", "off"] ||
    match Scalar.resolve text with
    | .ok (.str _) => false
    | _ => true

/-- Whether a character that follows others may stand in a plain text; `before` says whether a
blank stands before it. -/
def plainRest (before : Bool) : List Char → Bool
  | [] => !before
  | c :: rest =>
    !(c = ':' && beginsGap rest) && !(c = '#' && before) && plainRest (c = ' ') rest

/-- Whether a text can be written without quotes. -/
def isPlain (text : List Char) : Bool :=
  match text with
  | [] => false
  | c :: rest =>
    text.all isPrintable && c ≠ ' ' && plainRest false text &&
      !(c = '-' && beginsGap rest) && !(c = '?' && beginsGap rest) &&
      text.take 3 ≠ ['-', '-', '-'] && text.take 3 ≠ ['.', '.', '.'] &&
      c ∉ ['#', ',', '[', ']', '\x7b', '\x7d', '&', '*', '!', '|', '>', '\'', '"', '%', '@', '\x60']

/-- Hexadecimal digits of a certain number. -/
def hexDigits (count n : Nat) : List Char :=
  let digits := (Nat.toDigits 16 n).map Char.toUpper
  List.replicate (count - digits.length) '0' ++ digits

/-- A character between double quotes. -/
def escape (c : Char) : List Char :=
  match c with
  | '\x00' => ['\\', '0']
  | '\x07' => ['\\', 'a']
  | '\x08' => ['\\', 'b']
  | '\t' => ['\\', 't']
  | '\n' => ['\\', 'n']
  | '\x0b' => ['\\', 'v']
  | '\x0c' => ['\\', 'f']
  | '\r' => ['\\', 'r']
  | '\x1b' => ['\\', 'e']
  | '"' => ['\\', '"']
  | '\\' => ['\\', '\\']
  | '\u0085' => ['\\', 'N']
  | '\u2028' => ['\\', 'L']
  | '\u2029' => ['\\', 'P']
  | c =>
    if isPrintable c then [c]
    else if c.toNat < 0x100 then '\\' :: 'x' :: hexDigits 2 c.toNat
    else if c.toNat < 0x10000 then '\\' :: 'u' :: hexDigits 4 c.toNat
    else '\\' :: 'U' :: hexDigits 8 c.toNat

/-- A text between double quotes. -/
def doubleQuoted (text : List Char) : List Char :=
  '"' :: text.flatMap escape ++ ['"']

/-- A text between single quotes. -/
def singleQuoted (text : List Char) : List Char :=
  '\'' :: text.flatMap (fun c => if c = '\'' then [c, c] else [c]) ++ ['\'']

/-- A text on one line. -/
def inline (text : String) : List Char :=
  let chars := text.toList
  if !chars.all isPrintable then doubleQuoted chars
  else if !isAmbiguous text && isPlain chars then chars
  else singleQuoted chars

/-- Split a text at its line feeds. -/
def splitLines : List Char → List (List Char)
  | [] => [[]]
  | c :: rest =>
    if c = '\n' then [] :: splitLines rest
    else
      match splitLines rest with
      | line :: lines => (c :: line) :: lines
      | [] => [[c]]

/-- Whether a text of several lines can be written as a block: all its characters can be written
as they are, and no line ends with a blank. -/
def isBlock (text : List Char) : Bool :=
  text.contains '\n' &&
    (splitLines text).all fun line => line.all isPrintable && line.getLast? ≠ some ' '

/-- A text as a block: its indicators, and then its lines with an indentation. -/
def block (indent : Nat) (text : List Char) : List Char :=
  let lines := splitLines text
  let hint := if text.head? = some ' ' || text.head? = some '\n' then ['2'] else []
  let ended := lines.getLast? = some []
  let chomping :=
    if !ended then ['-'] else if lines.dropLast.getLast? = some [] then ['+'] else []
  let shown := if ended then lines.dropLast else lines
  '|' :: hint ++ chomping ++ ['\n'] ++ shown.flatMap fun line =>
    (if line.isEmpty then [] else List.replicate indent ' ' ++ line) ++ ['\n']

/-- The text of a number. -/
def float : Float → List Char
  | .finite value => value.write .bare
  | .infinite false => ".inf".toList
  | .infinite true => "-.inf".toList
  | .nan => ".nan".toList

/-- The indentation of a line. -/
def margin (indent : Nat) : List Char :=
  List.replicate indent ' '

/-- The text of a key on one line, if it has one. -/
def simpleKey? : Value → Option (List Char)
  | .null => some "null".toList
  | .bool value => some (if value then "true" else "false").toList
  | .int value => some (Json.writeInt value)
  | .float value => some (float value)
  | .str text =>
    if text.utf8ByteSize ≤ 128 && !text.toList.contains '\n' then some (inline text) else none
  | .seq [] => some "[]".toList
  | .map [] => some "\x7b\x7d".toList
  | _ => none

mutual

/-- What follows the indicator of an item or of a value, up to the end of the line or of the
collection.  `inItem` says that a collection may begin on the same line; a list in a mapping is not
indented any further. -/
def node (indent : Nat) (inItem : Bool) : Value → List Char
  | .null => " null\n".toList
  | .bool value => ' ' :: (if value then "true" else "false").toList ++ ['\n']
  | .int value => ' ' :: Json.writeInt value ++ ['\n']
  | .float value => ' ' :: float value ++ ['\n']
  | .str text =>
    ' ' :: if isBlock text.toList then block (indent + 2) text.toList else inline text ++ ['\n']
  | .seq values =>
    if values.isEmpty then " []\n".toList
    else if inItem then ' ' :: (items (indent + 2) values).drop (indent + 2)
    else '\n' :: items indent values
  | .map fields =>
    if fields.isEmpty then " \x7b\x7d\n".toList
    else if inItem then ' ' :: (pairs (indent + 2) fields).drop (indent + 2)
    else '\n' :: pairs (indent + 2) fields
  | .tagged tag value => ' ' :: '!' :: tag.toList ++ node indent false value

/-- The items of a list. -/
def items (indent : Nat) : List Value → List Char
  | [] => []
  | item :: rest => margin indent ++ '-' :: node indent true item ++ items indent rest

/-- The pairs of a mapping; a key that needs more than a line has an indicator of its own. -/
def pairs (indent : Nat) : List (Value × Value) → List Char
  | [] => []
  | (key, value) :: rest =>
    let simple := simpleKey? key
    let shown := simple.getD ('?' :: node indent true key ++ margin indent)
    margin indent ++ shown ++ ':' :: node indent simple.isNone value ++ pairs indent rest

end

/-- A whole document. -/
def document : Value → List Char
  | .map (pair :: rest) => pairs 0 (pair :: rest)
  | value => (node 0 false value).drop 1

end Writer

/-- The text of a value. -/
def write (value : Value) : String :=
  String.ofList (Writer.document value)

end Reconciler.Yaml.Value
