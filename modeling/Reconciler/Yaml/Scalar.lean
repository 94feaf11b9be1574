import Reconciler.Text.Digit
import Reconciler.Yaml.Error
import Reconciler.Yaml.Value
/-!
What the text of a plain scalar means: nothing, a truth value, a number, or else itself.  A whole
number may be written in base two, eight or sixteen; digits after a leading zero are text.
-/
namespace Reconciler.Yaml.Scalar

/-- Whether a text stands for nothing. -/
def isNull (text : String) : Bool :=
  text ∈ ["null", "Null", "NULL", "~"]

/-- The truth value that a text stands for. -/
def bool? (text : String) : Option Bool :=
  if text ∈ ["true", "True", "TRUE"] then some true
  else if text ∈ ["false", "False", "FALSE"] then some false
  else none

/-- Whether digits after a leading zero make a text of what looks like a number. -/
def hasLeadingZero (text : List Char) : Bool :=
  match text with
  | '-' :: '0' :: rest | '+' :: '0' :: rest | '0' :: rest =>
    !rest.isEmpty && rest.all Char.isDigit
  | _ => false

/-- A magnitude in any of the bases. -/
def magnitude? : List Char → Option Nat
  | '0' :: 'x' :: digits => Text.number? 16 digits
  | '0' :: 'o' :: digits => Text.number? 8 digits
  | '0' :: 'b' :: digits => Text.number? 2 digits
  | digits => if hasLeadingZero digits then none else Text.number? 10 digits

/-- The whole number that a text stands for. -/
def int? (text : List Char) : Option Int :=
  match text with
  | '-' :: rest => (magnitude? rest).map fun n => -(n : Int)
  | '+' :: rest => (magnitude? rest).map Int.ofNat
  | rest => (magnitude? rest).map Int.ofNat

/-- The exponent at the end of a number. -/
def exponent? : List Char → Option Int
  | [] => some 0
  | c :: rest =>
    if c = 'e' || c = 'E' then
      match rest with
      | '-' :: digits => (Text.number? 10 digits).map fun n => -(n : Int)
      | '+' :: digits => (Text.number? 10 digits).map Int.ofNat
      | digits => (Text.number? 10 digits).map Int.ofNat
    else none

/-- The finite number that a text stands for. -/
def decimal? (text : List Char) : Option Binary64 := do
  let (negative, text) := match text with
    | '-' :: rest => (true, rest)
    | '+' :: rest => (false, rest)
    | rest => (false, rest)
  let whole := text.takeWhile Char.isDigit
  let rest := text.drop whole.length
  let places := match rest with
    | '.' :: rest => rest.takeWhile Char.isDigit
    | _ => []
  let rest := match rest with
    | '.' :: rest => rest.drop places.length
    | rest => rest
  let exponent ← exponent? rest
  if whole.isEmpty && places.isEmpty then none
  Binary64.ofDecimal? negative (Text.natOfDigits (whole ++ places)) (exponent - places.length)

/-- The number with a fraction that a text stands for. -/
def float? (text : String) : Option Float :=
  if text ∈ [".inf", ".Inf", ".INF", "+.inf", "+.Inf", "+.INF"] then some (.infinite false)
  else if text ∈ ["-.inf", "-.Inf", "-.INF"] then some (.infinite true)
  else if text ∈ [".nan", ".NaN", ".NAN"] then some .nan
  else (decimal? text.toList).map .finite

/-- What becomes of a whole number: 64 bits hold it, or it is an error, or it is so large that it
is not read as a whole number. -/
def ofInt (n : Int) : Option (Except Error Value) :=
  if -(Nat.pow 2 63) ≤ n ∧ n < Nat.pow 2 64 then some (.ok (.int n))
  else if -(Nat.pow 2 127) ≤ n ∧ n < Nat.pow 2 128 then some (.error .number)
  else none

/-- The whole number that a text stands for, where it is read as one. -/
def whole? (text : String) : Option (Except Error Value) :=
  (int? text.toList).bind ofInt

/-- The value of a plain scalar. -/
def resolve (text : String) : Except Error Value :=
  if text.isEmpty || isNull text then .ok .null
  else
    match bool? text, whole? text with
    | some value, _ => .ok (.bool value)
    | none, some value => value
    | none, none =>
      match if hasLeadingZero text.toList then none else float? text with
      | some value => .ok (.float value)
      | none => .ok (.str text)

end Reconciler.Yaml.Scalar
