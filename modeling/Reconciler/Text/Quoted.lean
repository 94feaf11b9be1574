import Reconciler.Text.Visible
/-!
Quoted texts in messages: the text between double quotes, with a backslash before a quote or a
backslash, short names for tab, line feed, carriage return and NUL, and the hexadecimal code point
of every other character that would not be visible.
-/
namespace Reconciler.Text

/-- Lower case hexadecimal digits of a number, without leading zeros. -/
def hex (n : Nat) : List Char :=
  Nat.toDigits 16 n

/-- One character as it stands between the quotes. -/
def quoteChar (c : Char) : List Char :=
  match c with
  | '\x00' => ['\\', '0']
  | '\t' => ['\\', 't']
  | '\n' => ['\\', 'n']
  | '\r' => ['\\', 'r']
  | '"' => ['\\', '"']
  | '\\' => ['\\', '\\']
  | c => if isVisible c then [c] else ['\\', 'u', '\x7b'] ++ hex c.toNat ++ ['\x7d']

/-- The quoted form of a text. -/
def quoted (s : String) : String :=
  String.ofList ('"' :: s.toList.flatMap quoteChar ++ ['"'])

example : quoted "say \"hi\"\n" = "\"say \\\"hi\\\"\\n\"" := by decide +kernel
example : quoted "b\u0301" = "\"b\\u\x7b301\x7d\"" := by decide +kernel

end Reconciler.Text
