import Reconciler.Shell.Utility.Basic
/-!
Tests of files, texts and numbers.
-/
namespace Reconciler.Shell

namespace Utility

/-- A number in a test. -/
def testNumber (text : String) : Except String Int :=
  let digits := if text.startsWith "+" then (text.drop 1).toString else text
  match digits.toInt? with
  | some value => .ok value
  | none => .error ("Illegal number: " ++ text)

/-- Whether a test of two operands holds. -/
def testTwo (left operator right : String) : Except String Bool :=
  let numbers (holds : Int → Int → Bool) : Except String Bool := do
    return holds (← testNumber left) (← testNumber right)
  match operator with
  | "=" => .ok (left = right)
  | "!=" => .ok (left ≠ right)
  | "<" => .ok (left < right)
  | ">" => .ok (right < left)
  | "-eq" => numbers (· == ·)
  | "-ne" => numbers (· != ·)
  | "-lt" => numbers (· < ·)
  | "-le" => numbers (· ≤ ·)
  | "-gt" => numbers (· > ·)
  | "-ge" => numbers (· ≥ ·)
  | _ => .error (left ++ ": unexpected operator")

/-- The operators that join tests, the one that binds loosest first. -/
def testJoints : List (String × (Bool → Bool → Bool)) :=
  [("-o", (· || ·)), ("-a", (· && ·))]

variable (machine : Machine) (directory : Place)

/-- Whether a test of one operand holds. -/
def testOne (operator operand : String) : Option Bool :=
  let found := (machine.files.find directory operand).toOption.map (·.2)
  match operator with
  | "-n" => some (!operand.isEmpty)
  | "-z" => some operand.isEmpty
  | "-e" | "-r" | "-w" => some found.isSome
  | "-d" => some (found = some .directory)
  | "-f" => some (found.any fun
    | .file .. | .program _ => true
    | _ => false)
  | "-s" => some (found.any fun
    | .file octets _ => !octets.isEmpty
    | _ => true)
  | "-x" => some (found.any fun
    | .file _ mode => mode &&& 0o111 ≠ 0
    | _ => true)
  | _ => none

/-- Whether a test holds. -/
def testAll : Nat → List String → Except String Bool
  | 0, _ | _, [] => .ok false
  | _, [operand] => .ok (!operand.isEmpty)
  | fuel + 1, [first, second] =>
    if first = "!" then .ok second.isEmpty
    else
      match testOne machine directory first second with
      | some holds => .ok holds
      | none => if fuel = 0 then .ok true else .error (first ++ ": unexpected operator")
  | fuel + 1, [left, operator, right] =>
    if left = "!" then (testAll fuel [operator, right]).map (!·)
    else if left = "(" && right = ")" then .ok (!operator.isEmpty)
    else if operator = "-a" then .ok (!left.isEmpty && !right.isEmpty)
    else if operator = "-o" then .ok (!left.isEmpty || !right.isEmpty)
    else testTwo left operator right
  | fuel + 1, all =>
    match testJoints.find? fun joint => joint.1 ∈ all with
    | some (operator, join) => do
      let left := all.takeWhile (· ≠ operator)
      return join (← testAll fuel left) (← testAll fuel (all.drop (left.length + 1)))
    | none =>
      match all with
      | "!" :: rest => (testAll fuel rest).map (!·)
      | _ => .error (all.getD 2 "" ++ ": unexpected operator")

/-- A test as a command. -/
def test (name : String) (arguments : List String) : Written :=
  match testAll machine directory (arguments.length + 1) arguments with
  | .ok true => {}
  | .ok false => { status := 1 }
  | .error problem => fail (name ++ ": " ++ problem) 2

end Utility

end Reconciler.Shell
