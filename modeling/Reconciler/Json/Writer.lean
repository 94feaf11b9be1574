import Reconciler.Json.Basic
import Reconciler.Binary64.Shortest
/-!
The compact text of a JSON value: no blanks, fields in key order, only quotes, backslashes and
control characters escaped.
-/
namespace Reconciler.Json

/-- Two hexadecimal digits. -/
def hexPair (n : Nat) : List Char :=
  [Nat.digitChar (n / 16), Nat.digitChar (n % 16)]

/-- One character inside a string. -/
def writeChar (c : Char) : List Char :=
  if c = '"' then ['\\', '"']
  else if c = '\\' then ['\\', '\\']
  else if c = '\n' then ['\\', 'n']
  else if c = '\r' then ['\\', 'r']
  else if c = '\t' then ['\\', 't']
  else if c = '\x08' then ['\\', 'b']
  else if c = '\x0c' then ['\\', 'f']
  else if c.toNat < 0x20 then ['\\', 'u', '0', '0'] ++ hexPair c.toNat
  else [c]

/-- A string between quotes. -/
def writeString (s : String) : List Char :=
  '"' :: s.toList.flatMap writeChar ++ ['"']

/-- Decimal digits, with a minus sign if negative. -/
def writeInt (i : Int) : List Char :=
  if i < 0 then '-' :: Nat.toDigits 10 i.natAbs else Nat.toDigits 10 i.natAbs

mutual

/-- The characters of a value. -/
def write : Json → List Char
  | .null => ['n', 'u', 'l', 'l']
  | .bool true => ['t', 'r', 'u', 'e']
  | .bool false => ['f', 'a', 'l', 's', 'e']
  | .int i => writeInt i
  | .float x => x.write .signed
  | .str s => writeString s
  | .arr [] => ['[', ']']
  | .arr (item :: items) => '[' :: write item ++ writeItems items
  | .obj [] => ['\x7b', '\x7d']
  | .obj ((name, value) :: fields) =>
    '\x7b' :: writeString name ++ ':' :: write value ++ writeFields fields

/-- The rest of a list after its first item. -/
def writeItems : List Json → List Char
  | [] => [']']
  | item :: items => ',' :: write item ++ writeItems items

/-- The rest of an object after its first field. -/
def writeFields : List (String × Json) → List Char
  | [] => ['\x7d']
  | (name, value) :: fields =>
    ',' :: writeString name ++ ':' :: write value ++ writeFields fields

end

/-- The text of a value. -/
def compact (value : Json) : String :=
  String.ofList value.write

example : compact (.ofFields [("b", .int 1), ("a", .arr [.bool true])]) =
    "\x7b\"a\":[true],\"b\":1\x7d" := by decide +kernel

end Reconciler.Json
