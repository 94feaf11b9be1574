import Reconciler.Binary64.Basic
/-!
The shortest decimal that reads back as a binary64 number, and of the shortest ones the nearest.

All reals that round to the number form an interval; its ends belong to it when the mantissa is
even.  The grid of decimals with a fixed number of digits is tried for one digit, two digits and
so on, always at the two neighbours of the number; seventeen digits are always enough.
-/
namespace Reconciler.Binary64

/-- A decimal: some digits times a power of ten. -/
structure Decimal where
  digits : Nat
  exponent : Int
deriving DecidableEq, Repr

/-- Remove trailing zeros from the digits, at most `fuel` of them. -/
def Decimal.strip : Nat → Decimal → Decimal
  | 0, d => d
  | fuel + 1, d =>
    if d.digits % 10 = 0 ∧ d.digits ≠ 0 then strip fuel ⟨d.digits / 10, d.exponent + 1⟩ else d

/-- Quarters of a unit in the magnitude. -/
def quarters (x : Binary64) : Nat :=
  4 * x.units

/-- The lower end of the interval, in quarters of a unit. -/
def lowQuarters (x : Binary64) : Nat :=
  if x.mantissa = Nat.pow 2 52 ∧ 0 < x.shift then x.quarters - Nat.pow 2 x.shift
  else x.quarters - 2 * Nat.pow 2 x.shift

/-- The upper end of the interval, in quarters of a unit. -/
def highQuarters (x : Binary64) : Nat :=
  x.quarters + 2 * Nat.pow 2 x.shift

/-- Whether `candidate * den` quarters lie in the interval of the number scaled by `num`. -/
def within (x : Binary64) (num den candidate : Nat) : Bool :=
  let place := candidate * den
  let low := x.lowQuarters * num
  let high := x.highQuarters * num
  if x.mantissa % 2 = 0 then low ≤ place && place ≤ high else low < place && place < high

/-- The nearest decimal with the given exponent that reads back, if one does. -/
def onGrid? (x : Binary64) (exponent : Int) : Option Decimal :=
  let (num, den) := match exponent with
    | .ofNat e => (1, 4 * one * Nat.pow 10 e)
    | .negSucc e => (Nat.pow 10 (e + 1), 4 * one)
  let below := x.quarters * num / den
  let rest := x.quarters * num % den
  match x.within num den below && below ≠ 0, x.within num den (below + 1) with
  | true, true => some ⟨if 2 * rest ≤ den then below else below + 1, exponent⟩
  | true, false => some ⟨below, exponent⟩
  | false, true => some ⟨below + 1, exponent⟩
  | false, false => none

/-- How many zeros follow the point in a number below one, counted with fuel. -/
def leadingZeros : Nat → Nat → Nat
  | 0, _ => 0
  | fuel + 1, units => if one ≤ units * 10 then 0 else leadingZeros fuel (units * 10) + 1

/-- The place of the first digit: the magnitude is at least `10 ^ (place - 1)` and below
`10 ^ place`. -/
def place (x : Binary64) : Int :=
  if one ≤ x.units then (Nat.toDigits 10 (x.units / one)).length
  else -(leadingZeros 400 x.units : Int)

/-- Try `count`, `count + 1`, … digits. -/
def shortestFrom (x : Binary64) (place : Int) : Nat → Nat → Decimal
  | 0, _ => ⟨0, 0⟩
  | fuel + 1, count =>
    match x.onGrid? (place - count) with
    | some d => d.strip 20
    | none => shortestFrom x place fuel (count + 1)

/-- The shortest decimal that reads back as the magnitude. -/
def shortest (x : Binary64) : Decimal :=
  if x.rank = 0 then ⟨0, 0⟩ else shortestFrom x x.place 17 1

/-- How a power of ten is written behind the digits. -/
inductive ExponentStyle where
  /-- A positive exponent carries a plus sign: `1e+21`. -/
  | signed
  /-- A positive exponent stands alone: `1e21`. -/
  | bare
deriving DecidableEq, Repr

/-- The text of an exponent. -/
def ExponentStyle.write (style : ExponentStyle) (exponent : Int) : List Char :=
  let digits := Nat.toDigits 10 exponent.natAbs
  'e' :: (if exponent < 0 then '-' :: digits
    else if style = .signed then '+' :: digits else digits)

/-- Digits with a point: positional from 1e-5 up to below 1e16, always with a digit after the
point, and with an exponent outside. -/
def Decimal.write (style : ExponentStyle) (d : Decimal) : List Char :=
  let digits := Nat.toDigits 10 d.digits
  let length : Int := digits.length
  let point := length + d.exponent
  if 0 ≤ d.exponent ∧ point ≤ 16 then
    digits ++ List.replicate d.exponent.toNat '0' ++ ['.', '0']
  else if 0 < point ∧ point ≤ 16 then
    digits.take point.toNat ++ '.' :: digits.drop point.toNat
  else if -5 < point ∧ point ≤ 0 then
    '0' :: '.' :: List.replicate (-point).toNat '0' ++ digits
  else
    digits.take 1 ++ (if 1 < digits.length then '.' :: digits.drop 1 else []) ++
      style.write (point - 1)

/-- The text of a number. -/
def write (style : ExponentStyle) (x : Binary64) : List Char :=
  let text := if x.rank = 0 then ['0', '.', '0'] else x.shortest.write style
  if x.negative then '-' :: text else text

example : (ofDecimal? false 15 (-1)).map (fun x => String.ofList (x.write .signed)) =
    some "1.5" := by decide +kernel
example : (ofDecimal? false 1 21).map (fun x => String.ofList (x.write .signed)) =
    some "1e+21" := by decide +kernel
example : (ofDecimal? true 1 (-7)).map (fun x => String.ofList (x.write .bare)) =
    some "-1e-7" := by decide +kernel
example : (ofDecimal? false 5 (-324)).map (fun x => String.ofList (x.write .bare)) =
    some "5e-324" := by decide +kernel

end Reconciler.Binary64
