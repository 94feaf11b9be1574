/-!
Blank characters (the Unicode property White_Space) and cutting them off the ends of a text.
-/
namespace Reconciler.Text

/-- White space in the sense of Unicode: 25 code points. -/
def isBlank (c : Char) : Bool :=
  let code := c.toNat
  (9 ≤ code && code ≤ 13) || code == 0x20 || code == 0x85 || code == 0xa0 || code == 0x1680 ||
    (0x2000 ≤ code && code ≤ 0x200a) || code == 0x2028 || code == 0x2029 || code == 0x202f ||
    code == 0x205f || code == 0x3000

/-- Drop the blanks at the front. -/
def trimStart (chars : List Char) : List Char :=
  chars.dropWhile isBlank

/-- Drop the blanks at the end. -/
def trimEnd (chars : List Char) : List Char :=
  (chars.reverse.dropWhile isBlank).reverse

/-- Drop the blanks at both ends. -/
def trim (chars : List Char) : List Char :=
  trimEnd (trimStart chars)

end Reconciler.Text
