/-!
Finite binary64 numbers by sign and rank.  The rank of a magnitude is its place among all
magnitudes: zero has rank 0, the least positive number rank 1, and so on, so that comparing ranks
compares magnitudes.  Values are exact: a magnitude is a natural number of units of 2 ^ (-1074),
and every rounding goes from an exact quotient to the nearest rank, ties to the even one.
-/
namespace Reconciler

/-- A finite binary64 number. -/
structure Binary64 where
  negative : Bool
  rank : Nat
  rank_lt : rank < 2047 * Nat.pow 2 52
deriving DecidableEq

namespace Binary64

/-- Zero, with a sign. -/
def zero (negative : Bool) : Binary64 :=
  ⟨negative, 0, by decide⟩

instance : Inhabited Binary64 := ⟨zero false⟩

/-- The significant bits of the magnitude as a whole number. -/
def mantissa (x : Binary64) : Nat :=
  if x.rank < Nat.pow 2 52 then x.rank else Nat.pow 2 52 + x.rank % Nat.pow 2 52

/-- How many places the mantissa stands above the least unit. -/
def shift (x : Binary64) : Nat :=
  x.rank / Nat.pow 2 52 - 1

/-- The magnitude as a multiple of 2 ^ (-1074). -/
def units (x : Binary64) : Nat :=
  x.mantissa * Nat.pow 2 x.shift

/-- The units in one. -/
def one : Nat := Nat.pow 2 1074

/-- The nearest whole number to a quotient; a half goes to the even neighbour. -/
def roundHalfEven (num den : Nat) : Nat :=
  let below := num / den
  let rest := num % den
  if 2 * rest < den then below
  else if den < 2 * rest then below + 1
  else if below % 2 = 0 then below else below + 1

/-- The rank nearest to a quotient, without a bound. -/
def rankOfRatio (num den : Nat) : Nat :=
  let scaled := num * one
  let shift := Nat.log2 (scaled / den) - 52
  shift * Nat.pow 2 52 + roundHalfEven scaled (den * Nat.pow 2 shift)

/-- The number nearest to a quotient, unless it is too large. -/
def ofRatio? (negative : Bool) (num den : Nat) : Option Binary64 :=
  if h : rankOfRatio num den < 2047 * Nat.pow 2 52 then some ⟨negative, _, h⟩ else none

/-- The number nearest to `digits * 10 ^ exponent`, unless it is too large.  Exponents far outside
the range are decided without computing the power. -/
def ofDecimal? (negative : Bool) (digits : Nat) (exponent : Int) : Option Binary64 :=
  if digits = 0 then some (zero negative)
  else if 400 < exponent then none
  else match exponent with
    | .ofNat e => ofRatio? negative (digits * Nat.pow 10 e) 1
    | .negSucc e =>
      if Nat.log2 digits + 4 * 400 < 3 * (e + 1) then some (zero negative)
      else ofRatio? negative digits (Nat.pow 10 (e + 1))

/-- The number nearest to a whole number, unless it is too large. -/
def ofNat? (negative : Bool) (n : Nat) : Option Binary64 :=
  ofRatio? negative n 1

/-- The product, rounded; the sign is that of the first factor. -/
def scaleUp? (x y : Binary64) : Option Binary64 :=
  ofRatio? x.negative (x.units * y.units) (one * one)

/-- The quotient, rounded; the sign is that of the dividend. -/
def scaleDown? (x y : Binary64) : Option Binary64 :=
  ofRatio? x.negative x.units y.units

example : (ofDecimal? false 1 0).map rank = some (1023 * Nat.pow 2 52) := by decide +kernel
example : (ofDecimal? false 5 (-324)).map rank = some 1 := by decide +kernel
example : ofDecimal? false 1 309 = none := by decide +kernel

end Binary64

end Reconciler
