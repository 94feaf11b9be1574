import Reconciler.Text.Digit
/-!
Whole numbers and their operators, as a script computes with them.  A name stands for the number
that it is set to, and for zero if it is not set.
-/
namespace Reconciler.Shell.Arithmetic

/-- Why an expression has no value. -/
inductive Failure where
  | noOperand
  | moreText
  | noNumber (text : String)
  | zeroDivisor
deriving DecidableEq, Repr

/-- What is left of a text when its blanks are skipped. -/
def skip (text : List Char) : List Char :=
  text.dropWhile fun c => c = ' ' || c = '\t' || c = '\n'

/-- The binary operators, those that bind loosely first. -/
def levels : List (List String) :=
  [["||"], ["&&"], ["|"], ["^"], ["&"], ["==", "!="], ["<=", ">=", "<", ">"], ["<<", ">>"],
    ["+", "-"], ["*", "/", "%"]]

/-- The operator of a level at the beginning of a text.  One sign of a doubled operator does not
count. -/
def operator? (level : Nat) (text : List Char) : Option String :=
  (levels.getD level []).find? fun operator =>
    let signs := operator.toList
    signs.isPrefixOf text &&
      !(signs.length = 1 && operator ∈ ["|", "&", "<", ">"] && text[1]? = text[0]?)

/-- The number of a truth value. -/
def ofBool (value : Bool) : Int :=
  if value then 1 else 0

/-- What an operator computes. -/
def apply (operator : String) (a b : Int) : Except Failure Int :=
  let bits (f : UInt64 → UInt64 → UInt64) : Int :=
    (f (Int64.ofInt a).toUInt64 (Int64.ofInt b).toUInt64).toInt64.toInt
  match operator with
  | "||" => .ok (ofBool (a ≠ 0 || b ≠ 0))
  | "&&" => .ok (ofBool (a ≠ 0 && b ≠ 0))
  | "|" => .ok (bits (· ||| ·))
  | "^" => .ok (bits (· ^^^ ·))
  | "&" => .ok (bits (· &&& ·))
  | "==" => .ok (ofBool (a = b))
  | "!=" => .ok (ofBool (a ≠ b))
  | "<=" => .ok (ofBool (a ≤ b))
  | ">=" => .ok (ofBool (a ≥ b))
  | "<" => .ok (ofBool (a < b))
  | ">" => .ok (ofBool (a > b))
  | "<<" => .ok (bits (· <<< ·))
  | ">>" => .ok (Int.fdiv a (Nat.pow 2 (b.toNat % 64)))
  | "+" => .ok (a + b)
  | "-" => .ok (a - b)
  | "*" => .ok (a * b)
  | "/" => if b = 0 then .error .zeroDivisor else .ok (Int.tdiv a b)
  | _ => if b = 0 then .error .zeroDivisor else .ok (Int.tmod a b)

/-- The number that a text writes: hexadecimal, octal or decimal. -/
def number? (text : List Char) : Option Int :=
  match text with
  | '-' :: rest => (Text.number? 10 rest).map fun n => -(n : Int)
  | '0' :: 'x' :: rest => (Text.number? 16 rest).map Int.ofNat
  | '0' :: c :: rest => (Text.number? 8 (c :: rest)).map Int.ofNat
  | rest => (Text.number? 10 rest).map Int.ofNat

variable (valueOf : String → String)

/-- What a name or the digits of a number stand for. -/
def word (text : List Char) : Except Failure Int :=
  let written := if text.head?.any Char.isDigit then text else (valueOf (String.ofList text)).toList
  if written.isEmpty then .ok 0
  else
    match number? written with
    | some value => .ok value
    | none => .error (.noNumber (String.ofList written))

mutual

/-- The value of the operand at the beginning of a text, and the rest. -/
def operand : Nat → List Char → Except Failure (Int × List Char)
  | 0, _ => .error .noOperand
  | fuel + 1, text =>
    match skip text with
    | '(' :: rest => do
      let (value, rest) ← expression fuel 0 rest
      match skip rest with
      | ')' :: rest => return (value, rest)
      | _ => throw .noOperand
    | '-' :: rest => do
      let (value, rest) ← operand fuel rest
      return (-value, rest)
    | '+' :: rest => operand fuel rest
    | '!' :: rest => do
      let (value, rest) ← operand fuel rest
      return (ofBool (value = 0), rest)
    | '~' :: rest => do
      let (value, rest) ← operand fuel rest
      return (-value - 1, rest)
    | rest => do
      let name := rest.takeWhile fun c => c.isAlphanum || c = '_'
      if name.isEmpty then throw .noOperand
      return (← word valueOf name, rest.drop name.length)

/-- The value of the operands at the beginning of a text that operators of a level, or ones that
bind tighter, join. -/
def expression : Nat → Nat → List Char → Except Failure (Int × List Char)
  | 0, _, _ => .error .noOperand
  | fuel + 1, level, text =>
    if levels.length ≤ level then operand fuel text
    else do
      let (value, rest) ← expression fuel (level + 1) text
      continued fuel level value rest

/-- Go on with an expression whose value so far is known. -/
def continued : Nat → Nat → Int → List Char → Except Failure (Int × List Char)
  | 0, _, _, _ => .error .noOperand
  | fuel + 1, level, value, rest =>
    match operator? level (skip rest) with
    | none => .ok (value, rest)
    | some operator => do
      let (other, rest) ← expression fuel (level + 1) ((skip rest).drop operator.length)
      continued fuel level (← apply operator value other) rest

end

/-- The value of an expression. -/
def evaluate (text : String) : Except Failure Int := do
  if (skip text.toList).isEmpty then return 0
  let (value, rest) ← expression valueOf (20 * (text.length + 2)) 0 text.toList
  if !(skip rest).isEmpty then throw .moreText
  return value

/-- The name that an expression sets, and the expression whose value it takes. -/
def setting? (text : String) : Option (String × String) :=
  let text := skip text.toList
  let name := text.takeWhile fun c => c.isAlphanum || c = '_'
  let rest := skip (text.drop name.length)
  let operator := ["<<", ">>", "+", "-", "*", "/", "%", "|", "&", "^"].find? fun operator =>
    operator.toList.isPrefixOf rest
  match rest.drop ((operator.elim 0 String.length)) with
  | '=' :: c :: rest =>
    if c = '=' || name.isEmpty then none
    else
      let value := String.ofList (c :: rest)
      some (String.ofList name, operator.elim value fun operator =>
        String.ofList name ++ " " ++ operator ++ " (" ++ value ++ ")")
  | _ => none

end Reconciler.Shell.Arithmetic
