import Reconciler.Time.Instant
import Reconciler.Text.Blank
import Reconciler.Text.Digit
/-!
Instants as RFC 3339 text.  They are written in UTC with a `Z`.  There are two readers: the strict
one takes a date of four, two and two digits, a `T` (or `t`, or a space), a time of three pairs of
digits with an optional fraction, and an offset with a colon; the relaxed one also takes shorter
and signed numbers, blanks between the parts, and offsets without a colon.
-/
namespace Reconciler.Rfc3339

/-- Digits of a number, padded with zeros to a width. -/
def padded (width n : Nat) : List Char :=
  let digits := Nat.toDigits 10 n
  List.replicate (width - digits.length) '0' ++ digits

/-- A year: four digits, or a sign and at least four digits outside 0 to 9999. -/
def writeYear (year : Int) : List Char :=
  if 0 ≤ year ∧ year ≤ 9999 then padded 4 year.toNat
  else (if year < 0 then '-' else '+') :: padded 4 year.natAbs

/-- The text of an instant with some decimal places of the second, cut off and not rounded. -/
def write (places : Nat) (t : Instant) : String :=
  let days := t.seconds.fdiv 86400
  let rest := (t.seconds - days * 86400).toNat
  let date := Date.ofDays days
  let second := if t.nanos < 1000000000 then rest % 60 else rest % 60 + 1
  let nanos := t.nanos % 1000000000
  let fraction := if places = 0 then [] else '.' :: (padded 9 nanos).take places
  String.ofList (writeYear date.year ++ '-' :: padded 2 date.month ++ '-' :: padded 2 date.day ++
    'T' :: padded 2 (rest / 3600) ++ ':' :: padded 2 (rest / 60 % 60) ++ ':' :: padded 2 second ++
    fraction ++ ['Z'])

/-- Between `least` and `most` digits, and what follows them. -/
def number? (least most : Nat) (text : List Char) : Option (Nat × List Char) :=
  let digits := (text.take most).takeWhile Char.isDigit
  if digits.length < least then none else some (Text.natOfDigits digits, text.drop digits.length)

/-- The next character, if it is the expected one. -/
def char? (expected : Char) : List Char → Option (List Char)
  | c :: rest => if c = expected then some rest else none
  | [] => none

/-- The mark between a date and a time. -/
def separator? : List Char → Option (List Char)
  | c :: rest => if c = 'T' ∨ c = 't' ∨ c = ' ' then some rest else none
  | [] => none

/-- A fraction of a second in nanoseconds: digits beyond the ninth are dropped. -/
def fraction? : List Char → Option (Nat × List Char)
  | '.' :: rest =>
    let digits := rest.takeWhile Char.isDigit
    if digits.isEmpty then none
    else
      let kept := digits.take 9
      some (Text.natOfDigits kept * Nat.pow 10 (9 - kept.length), rest.drop digits.length)
  | rest => some (0, rest)

/-- An offset from UTC in seconds.  `separate` takes what stands between hours and minutes. -/
def offset? (separate : List Char → Option (List Char)) :
    List Char → Option (Int × List Char)
  | 'Z' :: rest | 'z' :: rest => some (0, rest)
  | sign :: rest => do
    let negative ← if sign = '+' then some false
      else if sign = '-' ∨ sign = '\u2212' then some true else none
    let (hours, rest) ← number? 2 2 rest
    let rest ← separate rest
    let (minutes, rest) ← number? 2 2 rest
    if 59 < minutes then none
    let seconds : Int := hours * 3600 + minutes * 60
    some (if negative then -seconds else seconds, rest)
  | [] => none

/-- An instant from its parts, if they exist.  Second 60 is a leap second after second 59. -/
def assemble? (date : Date) (hour minute second nanos : Nat) (offset : Int) : Option Instant :=
  if date.isValid ∧ -262143 ≤ date.year ∧ date.year ≤ 262142 ∧ hour < 24 ∧ minute < 60 ∧
      second ≤ 60 then
    let leap := second = 60
    let inDay : Int := hour * 3600 + minute * 60 + if leap then 59 else second
    let nanos := if leap then nanos + 1000000000 else nanos
    if h : nanos < 2000000000 then some ⟨date.toDays * 86400 + inDay - offset, nanos, h⟩
    else none
  else none

/-- The strict reader. -/
def parse? (text : String) : Option Instant := do
  let (year, rest) ← number? 4 4 text.toList
  let rest ← char? '-' rest
  let (month, rest) ← number? 2 2 rest
  let rest ← char? '-' rest
  let (day, rest) ← number? 2 2 rest
  let rest ← separator? rest
  let (hour, rest) ← number? 2 2 rest
  let rest ← char? ':' rest
  let (minute, rest) ← number? 2 2 rest
  let rest ← char? ':' rest
  let (second, rest) ← number? 2 2 rest
  let (nanos, rest) ← fraction? rest
  let (offset, rest) ← offset? (char? ':') rest
  if offset.natAbs ≤ 86340 ∧ rest.isEmpty then
    assemble? ⟨year, month, day⟩ hour minute second nanos offset
  else none

/-- A year for the relaxed reader: up to four digits, or a sign and any number of digits. -/
def looseYear? : List Char → Option (Int × List Char)
  | '-' :: rest => (number? 1 rest.length rest).map fun (n, rest) => (-(n : Int), rest)
  | '+' :: rest => (number? 1 rest.length rest).map fun (n, rest) => ((n : Int), rest)
  | rest => (number? 1 4 rest).map fun (n, rest) => ((n : Int), rest)

/-- One or two digits after blanks. -/
def loosePair? (text : List Char) : Option (Nat × List Char) :=
  number? 1 2 (Text.trimStart text)

/-- The expected character after blanks. -/
def looseChar? (expected : Char) (text : List Char) : Option (List Char) :=
  char? expected (Text.trimStart text)

/-- An offset for the relaxed reader; `UTC` in any case is one. -/
def looseOffset? (text : List Char) : Option (Int × List Char) :=
  if (text.take 3).map Char.toUpper = ['U', 'T', 'C'] then some (0, text.drop 3)
  else offset? (fun rest => some (rest.dropWhile fun c => c = ':' || Text.isBlank c)) text

/-- The relaxed reader. -/
def parseRelaxed? (text : String) : Option Instant := do
  let (year, rest) ← looseYear? (Text.trimStart text.toList)
  let rest ← looseChar? '-' rest
  let (month, rest) ← loosePair? rest
  let rest ← looseChar? '-' rest
  let (day, rest) ← loosePair? rest
  let rest ← separator? rest
  let (hour, rest) ← loosePair? rest
  let rest ← looseChar? ':' rest
  let (minute, rest) ← loosePair? rest
  let rest ← looseChar? ':' rest
  let (second, rest) ← loosePair? rest
  let (nanos, rest) ← fraction? rest
  let (offset, rest) ← looseOffset? (Text.trimStart rest)
  if offset.natAbs < 86400 ∧ (Text.trimStart rest).isEmpty then
    assemble? ⟨year, month, day⟩ hour minute second nanos offset
  else none

example : (parse? "2022-02-02T02:02:02.5+02:00").map (write 0) = some "2022-02-02T00:02:02Z" := by
  decide +kernel
example : (parseRelaxed? "+10000-1-1 0:0:0 +0100").map (write 9) =
    some "9999-12-31T23:00:00.000000000Z" := by decide +kernel

end Reconciler.Rfc3339
