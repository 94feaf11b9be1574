import Reconciler.Text.Utf8
/-!
Names and values as they stand in a form-encoded query.  Letters, digits and four marks stand for
themselves, a blank is a plus sign, and every other octet is written with a percent sign and two
hexadecimal digits.  A separator of pairs can therefore not occur in what is written.
-/
namespace Reconciler.Text.FormEncoding

/-- Whether an octet stands for itself. -/
def isPlain (octet : UInt8) : Bool :=
  let c := Char.ofNat octet.toNat
  octet.toNat < 128 && (c.isAlphanum || c = '*' || c = '-' || c = '.' || c = '_')

/-- A hexadecimal digit with a capital letter. -/
def hexDigit (value : Nat) : Char :=
  (Nat.digitChar value).toUpper

/-- How an octet is written. -/
def encodeOctet (octet : UInt8) : List Char :=
  if octet = 32 then ['+']
  else if isPlain octet then [Char.ofNat octet.toNat]
  else ['%', hexDigit (octet.toNat / 16), hexDigit (octet.toNat % 16)]

/-- How a text is written. -/
def encode (text : String) : String :=
  String.ofList ((Utf8.encode text).flatMap encodeOctet)

example : encode "a in (b,c),é" = "a+in+%28b%2Cc%29%2C%C3%A9" := by decide +kernel

end Reconciler.Text.FormEncoding
