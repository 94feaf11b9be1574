/-!
Base64 with the standard alphabet: padding is required, and the bits that padding leaves over are
zero.
-/
namespace Reconciler.Text.Base64

/-- The digit with a value below 64. -/
def digit (value : Nat) : Char :=
  if value < 26 then Char.ofNat (65 + value)
  else if value < 52 then Char.ofNat (97 + (value - 26))
  else if value < 62 then Char.ofNat (48 + (value - 52))
  else if value = 62 then '+' else '/'

/-- The value of a digit. -/
def value? (c : Char) : Option Nat :=
  let code := c.toNat
  if 65 ≤ code ∧ code ≤ 90 then some (code - 65)
  else if 97 ≤ code ∧ code ≤ 122 then some (code - 97 + 26)
  else if 48 ≤ code ∧ code ≤ 57 then some (code - 48 + 52)
  else if c = '+' then some 62
  else if c = '/' then some 63
  else none

/-- Three octets become four digits; one or two left over are padded. -/
def encode : List UInt8 → List Char
  | [] => []
  | [a] =>
    let n := a.toNat * 16
    [digit (n / 64), digit (n % 64), '=', '=']
  | [a, b] =>
    let n := (a.toNat * 256 + b.toNat) * 4
    [digit (n / 4096), digit (n / 64 % 64), digit (n % 64), '=']
  | a :: b :: c :: rest =>
    let n := (a.toNat * 256 + b.toNat) * 256 + c.toNat
    digit (n / 262144) :: digit (n / 4096 % 64) :: digit (n / 64 % 64) :: digit (n % 64) ::
      encode rest

/-- Accepts only what `encode` writes. -/
def decode? : List Char → Option (List UInt8)
  | [] => some []
  | [p, q, '=', '='] => do
    let a ← value? p
    let b ← value? q
    if b % 16 = 0 then some [UInt8.ofNat (a * 4 + b / 16)] else none
  | p :: q :: r :: s :: rest => do
    let a ← value? p
    let b ← value? q
    let c ← value? r
    if s = '=' then
      if rest.isEmpty ∧ c % 4 = 0 then
        some [UInt8.ofNat (a * 4 + b / 16), UInt8.ofNat (b % 16 * 16 + c / 4)]
      else none
    else
      let d ← value? s
      let tail ← decode? rest
      some (UInt8.ofNat (a * 4 + b / 16) :: UInt8.ofNat (b % 16 * 16 + c / 4) ::
        UInt8.ofNat (c % 4 * 64 + d) :: tail)
  | _ => none

example : decode? "AAEC".toList = some [0, 1, 2] := by decide +kernel
example : decode? "c2VjcmV0=".toList = none := by decide +kernel
example : String.ofList (encode [115, 101]) = "c2U=" := by decide +kernel

end Reconciler.Text.Base64
