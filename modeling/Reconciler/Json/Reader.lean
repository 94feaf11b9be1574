import Reconciler.Json.Basic
import Reconciler.Text.Digit
/-!
Reading JSON text.  Lists and objects may be nested at most 127 deep.  A whole number that 64 bits
hold stays whole; every other number is a binary64 number, read in two rounded steps: its leading
digits as far as 64 bits hold them, then multiplied or divided by a power of ten.  Fields are first
kept as they are written; `canonical` puts them in key order, where a later field replaces an
earlier one of the same name.
-/
namespace Reconciler.Json

namespace Reader

open Text

/-- Drop the blanks that may stand between tokens. -/
def skipBlanks : List Char → List Char
  | c :: rest => if c = ' ' ∨ c = '\n' ∨ c = '\t' ∨ c = '\r' then skipBlanks rest else c :: rest
  | [] => []

/-- A code unit from four hexadecimal digits. -/
def codeUnit? (a b c d : Char) : Option Nat := do
  let a ← hexValue? a
  let b ← hexValue? b
  let c ← hexValue? c
  let d ← hexValue? d
  some (((a * 16 + b) * 16 + c) * 16 + d)

/-- The character that a one-letter escape names. -/
def escape? (c : Char) : Option Char :=
  match c with
  | '"' => some '"'
  | '\\' => some '\\'
  | '/' => some '/'
  | 'b' => some '\x08'
  | 'f' => some '\x0c'
  | 'n' => some '\n'
  | 'r' => some '\r'
  | 't' => some '\t'
  | _ => none

/-- The characters of a string up to its closing quote, and what follows.  Surrogates only count
in pairs. -/
def stringBody : List Char → List Char → Option (String × List Char)
  | '"' :: rest, done => some (String.ofList done.reverse, rest)
  | '\\' :: 'u' :: a :: b :: c :: d :: '\\' :: 'u' :: e :: f :: g :: h :: rest, done => do
    let unit ← codeUnit? a b c d
    if 0xd800 ≤ unit ∧ unit < 0xdc00 then
      let low ← codeUnit? e f g h
      if 0xdc00 ≤ low ∧ low < 0xe000 then
        stringBody rest (Char.ofNat (0x10000 + (unit - 0xd800) * 0x400 + (low - 0xdc00)) :: done)
      else none
    else if 0xdc00 ≤ unit ∧ unit < 0xe000 then none
    else stringBody ('\\' :: 'u' :: e :: f :: g :: h :: rest) (Char.ofNat unit :: done)
  | '\\' :: 'u' :: a :: b :: c :: d :: rest, done => do
    let unit ← codeUnit? a b c d
    if 0xd800 ≤ unit ∧ unit < 0xe000 then none else stringBody rest (Char.ofNat unit :: done)
  | '\\' :: c :: rest, done => do
    let escaped ← escape? c
    stringBody rest (escaped :: done)
  | c :: rest, done => if c.toNat < 0x20 then none else stringBody rest (c :: done)
  | [], _ => none

/-- The leading digits of a number as far as 64 bits hold them. -/
structure Significand where
  value : Nat
  /-- How many digits of the whole part did not fit. -/
  dropped : Nat
  /-- How many digits after the point were used. -/
  places : Nat
deriving DecidableEq, Repr

/-- Add a digit to a value, unless the sum needs more than 64 bits. -/
def push? (value : Nat) (c : Char) : Option Nat :=
  let next := value * 10 + digitValue c
  if next < Nat.pow 2 64 then some next else none

/-- Read the digits before the point. -/
def wholePart : Nat → List Char → Significand
  | value, [] => ⟨value, 0, 0⟩
  | value, c :: rest =>
    match push? value c with
    | some next => wholePart next rest
    | none => ⟨value, rest.length + 1, 0⟩

/-- Read the digits after the point. -/
def fraction : Significand → List Char → Significand
  | s, [] => s
  | s, c :: rest =>
    match push? s.value c with
    | some next => fraction ⟨next, s.dropped, s.places + 1⟩ rest
    | none => s

/-- The power of ten with a small exponent. -/
def powerOfTen (exponent : Nat) : Binary64 :=
  (Binary64.ofDecimal? false 1 exponent).getD (.zero false)

/-- Scale by a power of ten: one step within 308 places, several downwards. -/
def scale? : Nat → Binary64 → Int → Option Binary64
  | 0, x, _ => some (.zero x.negative)
  | fuel + 1, x, exponent =>
    if 0 ≤ exponent then
      if x.rank = 0 then some x
      else if exponent ≤ 308 then x.scaleUp? (powerOfTen exponent.toNat) else none
    else if -308 ≤ exponent then x.scaleDown? (powerOfTen (-exponent).toNat)
    else do
      let smaller ← x.scaleDown? (powerOfTen 308)
      scale? fuel smaller (exponent + 308)

/-- A binary64 number from its parts. -/
def float? (negative : Bool) (s : Significand) (exponent : Int) : Option Json := do
  let start ← Binary64.ofNat? negative s.value
  let total := exponent + s.dropped - s.places
  let scaled ← scale? 6 start total
  some (.float scaled)

/-- The exponent behind the digits: an optional sign and at least one digit. -/
def exponentPart? (rest : List Char) : Option (Int × List Char) :=
  let (negative, rest) := match rest with
    | '+' :: rest => (false, rest)
    | '-' :: rest => (true, rest)
    | rest => (false, rest)
  let digits := rest.takeWhile Char.isDigit
  if digits.isEmpty then none
  else
    let value : Int := natOfDigits digits
    some (if negative then -value else value, rest.dropWhile Char.isDigit)

/-- A whole number, or a binary64 number where 64 bits do not hold it. -/
def whole? (negative : Bool) (s : Significand) : Option Json :=
  if s.dropped ≠ 0 then float? negative s 0
  else if ¬negative then some (.int s.value)
  else if s.value = 0 then some (.float (.zero true))
  else if s.value ≤ Nat.pow 2 63 then some (.int (-s.value))
  else float? negative s 0

/-- A number and what follows it. -/
def number? (text : List Char) : Option (Json × List Char) := do
  let (negative, text) := match text with
    | '-' :: rest => (true, rest)
    | rest => (false, rest)
  let digits := text.takeWhile Char.isDigit
  let rest := text.dropWhile Char.isDigit
  if digits.isEmpty ∨ (digits.head? = some '0' ∧ 1 < digits.length) then none
  let s := wholePart 0 digits
  match rest with
  | '.' :: rest =>
    let places := rest.takeWhile Char.isDigit
    let rest := rest.dropWhile Char.isDigit
    if places.isEmpty then none
    let s := fraction s places
    match rest with
    | 'e' :: rest | 'E' :: rest => do
      let (exponent, rest) ← exponentPart? rest
      some (← float? negative s exponent, rest)
    | rest => some (← float? negative s 0, rest)
  | 'e' :: rest | 'E' :: rest => do
    let (exponent, rest) ← exponentPart? rest
    some (← float? negative s exponent, rest)
  | rest => some (← whole? negative s, rest)

mutual

/-- A value and what follows it; `depth` more levels of nesting are allowed. -/
def value? : Nat → Nat → List Char → Option (Json × List Char)
  | 0, _, _ => none
  | fuel + 1, depth, text =>
    match skipBlanks text with
    | 'n' :: 'u' :: 'l' :: 'l' :: rest => some (.null, rest)
    | 't' :: 'r' :: 'u' :: 'e' :: rest => some (.bool true, rest)
    | 'f' :: 'a' :: 'l' :: 's' :: 'e' :: rest => some (.bool false, rest)
    | '"' :: rest => (stringBody rest []).map fun (s, rest) => (.str s, rest)
    | '[' :: rest =>
      if depth = 0 then none
      else match skipBlanks rest with
        | ']' :: rest => some (.arr [], rest)
        | rest => (items? fuel (depth - 1) rest).map fun (items, rest) => (.arr items, rest)
    | '\x7b' :: rest =>
      if depth = 0 then none
      else match skipBlanks rest with
        | '\x7d' :: rest => some (.obj [], rest)
        | rest => (fields? fuel (depth - 1) rest).map fun (fields, rest) => (.obj fields, rest)
    | rest => number? rest

/-- The items of a list up to its closing bracket. -/
def items? : Nat → Nat → List Char → Option (List Json × List Char)
  | 0, _, _ => none
  | fuel + 1, depth, text => do
    let (item, rest) ← value? fuel depth text
    match skipBlanks rest with
    | ']' :: rest => some ([item], rest)
    | ',' :: rest => do
      let (items, rest) ← items? fuel depth rest
      some (item :: items, rest)
    | _ => none

/-- The fields of an object up to its closing brace. -/
def fields? : Nat → Nat → List Char → Option (List (String × Json) × List Char)
  | 0, _, _ => none
  | fuel + 1, depth, text =>
    match skipBlanks text with
    | '"' :: rest => do
      let (name, rest) ← stringBody rest []
      match skipBlanks rest with
      | ':' :: rest => do
        let (value, rest) ← value? fuel depth rest
        match skipBlanks rest with
        | '\x7d' :: rest => some ([(name, value)], rest)
        | ',' :: rest => do
          let (fields, rest) ← fields? fuel depth rest
          some ((name, value) :: fields, rest)
        | _ => none
      | _ => none
    | _ => none

end

/-- How deep lists and objects may be nested. -/
def maxDepth : Nat := 127

/-- A value at the front of a text, as written, and what follows it. -/
def written? (text : List Char) : Option (Json × List Char) :=
  value? (2 * text.length + 2) maxDepth text

/-- All values of a text that holds one after another, as written. -/
def stream? : Nat → List Char → Option (List Json)
  | 0, _ => none
  | fuel + 1, text =>
    match skipBlanks text with
    | [] => some []
    | text => do
      let (value, rest) ← written? text
      let values ← stream? fuel rest
      some (value :: values)

end Reader

mutual

/-- Put the fields of all objects in key order; a later field replaces an earlier one. -/
def canonical : Json → Json
  | .arr items => .arr (canonicalItems items)
  | .obj fields => .obj (canonicalFields fields [])
  | value => value

/-- `canonical` on every item. -/
def canonicalItems : List Json → List Json
  | [] => []
  | item :: items => canonical item :: canonicalItems items

/-- Insert the fields one after another. -/
def canonicalFields : List (String × Json) → List (String × Json) → List (String × Json)
  | [], done => done
  | (name, value) :: fields, done =>
    canonicalFields fields (Entries.insert name (canonical value) done)

end

/-- The value of a text, if it is the text of one value. -/
def parse? (text : String) : Option Json :=
  match Reader.written? text.toList with
  | some (value, rest) => if (Reader.skipBlanks rest).isEmpty then some value.canonical else none
  | none => none

/-- The values of a text that holds one after another, fields as written. -/
def stream? (text : String) : Option (List Json) :=
  Reader.stream? (text.length + 1) text.toList

example : parse? "[1, -2, \"a\\u00e9\"]" = some (.arr [.int 1, .int (-2), .str "aé"]) := by
  decide +kernel
example : parse? "[01]" = none := by decide +kernel

end Reconciler.Json
