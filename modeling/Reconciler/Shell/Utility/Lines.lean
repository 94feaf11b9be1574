import Reconciler.Shell.Format
import Reconciler.Shell.Utility.Basic
/-!
Programs that show, count, sort, pick and make lines.
-/
namespace Reconciler.Shell

namespace Utility

/-- How many lines or octets are wanted. -/
structure Amount where
  count : Nat := 10
  octets : Bool := false
  /-- Whether to count from the beginning where the end is the usual place. -/
  fromStart : Bool := false

/-- The amount that a text writes. -/
def amount (octets : Bool) (text : String) : Amount :=
  if text.startsWith "+" then
    { count := ((text.drop 1).toString.toNat?).getD 1, octets, fromStart := true }
  else
    let digits := if text.startsWith "-" then (text.drop 1).toString else text
    { count := digits.toNat?.getD 10, octets }

/-- The amount that options ask for, and the paths behind them. -/
def amountOf : List String → Amount × List String
  | "-n" :: count :: rest => (amount false count, rest)
  | "-c" :: count :: rest => (amount true count, rest)
  | first :: rest =>
    let value := (first.drop 2).toString
    if first.startsWith "-n" then (amount false value, rest)
    else if first.startsWith "-c" then (amount true value, rest)
    else if first.startsWith "-" && first ≠ "-" then
      (amount false (first.drop 1).toString, rest)
    else ({}, first :: rest)
  | [] => ({}, [])

/-- The beginning of an input. -/
def beginning (amount : Amount) (input : Input) : List UInt8 :=
  if amount.octets then input.first amount.count else input.lines amount.count

/-- The end of an input. -/
def ending (amount : Amount) (input : Input) : List UInt8 :=
  let cut {α : Type} (items : List α) : List α :=
    items.drop (if amount.fromStart then amount.count - 1 else items.length - amount.count)
  if amount.octets then cut input.all else (cut (linesOf input.all)).flatten

/-- The numbers of lines, words and octets. -/
def countsOf (octets : List UInt8) : List Nat :=
  let isBlank (octet : UInt8) : Bool := octet = 32 || (9 ≤ octet && octet ≤ 13)
  let starts := (octets.zip (32 :: octets)).filter fun (octet, before) =>
    !isBlank octet && isBlank before
  [octets.count 10, starts.length, octets.length]

/-- The characters of a set, in which a dash stands between the ends of a range. -/
def charactersOf : List Char → List Char
  | '\\' :: c :: rest =>
    let octet := if c = '0' then 0 else ((Format.letter? c).getD c.toNat.toUInt8)
    Char.ofNat octet.toNat :: charactersOf rest
  | low :: '-' :: high :: rest =>
    (List.range (high.toNat + 1 - low.toNat)).map (fun i => Char.ofNat (low.toNat + i)) ++
      charactersOf rest
  | c :: rest => c :: charactersOf rest
  | [] => []

/-- Whether some octets occur in others. -/
def occurs (wanted : List UInt8) : List UInt8 → Bool
  | [] => wanted.isEmpty
  | octet :: octets => wanted.isPrefixOf (octet :: octets) || occurs wanted octets

/-- Replace characters by others, or delete them. -/
def tr (arguments : List String) (input : Input) : Written :=
  let text := (Text.Utf8.decodeLossy input.all).toList
  match arguments with
  | ["-d", set] =>
    let set := charactersOf set.toList
    putText (String.ofList (text.filter (· ∉ set)))
  | [first, second] =>
    let first := charactersOf first.toList
    let second := charactersOf second.toList
    let image (c : Char) : Char :=
      match first.findIdx? (· = c) with
      | some i => (second[i]?.or second.getLast?).getD c
      | none => c
    putText (String.ofList (text.map image))
  | _ => fail "tr: missing operand" 1

/-- Count from a number to another one. -/
def seq (arguments : List String) : Written :=
  let counting (first step last : Int) : Written :=
    if step = 0 then {}
    else
      let count := ((last - first).tdiv step + 1).toNat
      let count := if (last - first) * step < 0 then 0 else count
      let numbers := (List.range count).map fun i : Nat =>
        toString (first + step * (i : Int)) ++ "\n"
      putText ("".intercalate numbers)
  match arguments.map String.toInt? with
  | [some last] => counting 1 1 last
  | [some first, some last] => counting first 1 last
  | [some first, some step, some last] => counting first step last
  | [] => fail "seq: missing operand" 1
  | _ => fail "seq: invalid argument" 1

variable (machine : Machine) (directory : Place)

/-- Join files; without names, the input. -/
def cat (arguments : List String) (input : Input) : Written :=
  if arguments.isEmpty then put input.all
  else
    let results := arguments.map fun path =>
      if path = "-" then (input.all, [])
      else
        match machine.files.read directory path with
        | .ok octets => (octets, [])
        | .error error => ([], ["cat: " ++ path ++ ": " ++ reason error])
    both (results.flatMap (·.1)) (results.flatMap (·.2))

/-- Show a part of a file or of the input. -/
def excerpt (name : String) (part : Amount → Input → List UInt8) (arguments : List String)
    (input : Input) : Written :=
  let (amount, paths) := amountOf arguments
  match paths with
  | [] => put (part amount input)
  | path :: _ =>
    match machine.files.read directory path with
    | .ok octets => put (part amount (.octets octets))
    | .error error =>
      fail (name ++ ": cannot open '" ++ path ++ "' for reading: " ++ reason error) 1

/-- Count lines, words and octets. -/
def wc (arguments : List String) (input : Input) : Written :=
  let (options, paths) := splitOptions arguments
  let asked := [hasOption options 'l', hasOption options 'w',
    hasOption options 'c' || hasOption options 'm']
  let wanted := if asked.any id then asked else [true, true, true]
  let (found, complaints) := sources machine directory "wc" paths input
  let single := (wanted.filter id).length = 1 && found.length ≤ 1
  let size := found.flatten.length
  let width := if single then 0 else if paths.isEmpty then 7 else (toString size).length
  let names := if paths.isEmpty then [""] else paths.map (" " ++ ·)
  let line (counts : List Nat) (name : String) : String :=
    let shown := ((counts.zip wanted).filter (·.2)).map fun (count, _) =>
      let digits := toString count
      "".pushn ' ' (width - digits.length) ++ digits
    " ".intercalate shown ++ name ++ "\n"
  let lines := (found.zip names).map fun (octets, name) => line (countsOf octets) name
  let total := if found.length ≤ 1 then [] else [line (countsOf found.flatten) " total"]
  both (Text.Utf8.encode ("".intercalate (lines ++ total))) complaints

/-- Sort lines. -/
def sort (arguments : List String) (input : Input) : Written :=
  let (options, paths) := splitOptions arguments
  let (found, complaints) := sources machine directory "sort" paths input
  let lines := (found.flatMap linesOf).map fun line =>
    if line.getLast? = some 10 then line.dropLast else line
  let number (line : List UInt8) : Nat :=
    line.foldl (fun n octet => n * 10 + (octet.toNat - 48)) 0
  let before (a b : List UInt8) : Bool :=
    if hasOption options 'n' && number a ≠ number b then number a < number b else !(b < a)
  let sorted := lines.mergeSort before
  let sorted := if hasOption options 'r' then sorted.reverse else sorted
  let sorted := if hasOption options 'u' then sorted.eraseDups else sorted
  both (sorted.flatMap (· ++ [10])) complaints

/-- The lines of files or of the input that hold a text, or that do not. -/
def grep (arguments : List String) (input : Input) : Written :=
  let (options, operands) := splitOptions arguments
  match operands with
  | [] => fail "grep: missing pattern" 2
  | wanted :: paths =>
    let wanted := Text.Utf8.encode wanted
    let (found, complaints) := sources machine directory "grep" paths input
    let lines := (found.flatMap linesOf).filter fun line =>
      occurs wanted line != hasOption options 'v'
    let shown := if hasOption options 'q' then []
      else if hasOption options 'c' then Text.Utf8.encode (toString lines.length ++ "\n")
      else lines.flatten
    { both shown complaints with
      status := if !lines.isEmpty then 0 else if complaints.isEmpty then 1 else 2 }

end Utility

end Reconciler.Shell
