import Reconciler.Text.Digit
import Reconciler.Text.Utf8
/-!
Texts with backslash escapes and conversions, as the commands `echo` and `printf` print them.
-/
namespace Reconciler.Shell.Format

/-- The character that an escape with a letter stands for. -/
def letter? (c : Char) : Option UInt8 :=
  match c with
  | 'a' => some 7
  | 'b' => some 8
  | 'e' => some 27
  | 'f' => some 12
  | 'n' => some 10
  | 'r' => some 13
  | 't' => some 9
  | 'v' => some 11
  | '\\' => some 92
  | _ => none

/-- Whether a character is an octal digit. -/
def isOctal (c : Char) : Bool :=
  '0' ≤ c && c ≤ '7'

/-- The octet with an octal number of at most so many digits, and how many there are. -/
def octal (most : Nat) (chars : List Char) : UInt8 × Nat :=
  let digits := (chars.take most).takeWhile isOctal
  (((Text.number? 8 digits).getD 0).toUInt8, digits.length)

/-- The octets of a character. -/
def ofChar (c : Char) : List UInt8 :=
  Text.Utf8.encode c.toString

/-- The octets of an argument with escapes; an escaped `c` ends the output. -/
def escaped : Nat → List Char → List UInt8 × Bool
  | 0, _ => ([], false)
  | _, [] => ([], false)
  | fuel + 1, '\\' :: c :: rest =>
    if c = 'c' then ([], true)
    else
      let (octets, rest) :=
        if c = '0' then
          let (octet, length) := octal 3 rest
          ([octet], rest.drop length)
        else if isOctal c then
          let (octet, length) := octal 3 (c :: rest)
          ([octet], (c :: rest).drop length)
        else
          match letter? c with
          | some octet => ([octet], rest)
          | none => (92 :: ofChar c, rest)
      let (more, ended) := escaped fuel rest
      (octets ++ more, ended)
  | fuel + 1, c :: rest =>
    let (more, ended) := escaped fuel rest
    (ofChar c ++ more, ended)

/-- What `echo` prints. -/
def echo (arguments : List String) : List UInt8 :=
  let (newline, arguments) := match arguments with
    | "-n" :: rest => (false, rest)
    | all => (true, all)
  let text := (" ".intercalate arguments).toList
  let (octets, ended) := escaped (text.length + 1) text
  if newline && !ended then octets ++ [10] else octets

/-- How a conversion lays out its argument. -/
structure Layout where
  toLeft : Bool := false
  zeros : Bool := false
  width : Nat := 0
  places : Option Nat := none
  conversion : Char

/-- The digits at the beginning of a text, or the next argument in their place, with what is left
of both. -/
def count (text : List Char) (arguments : List String) : Option Nat × List Char × List String :=
  match text with
  | '*' :: rest => (some ((arguments.headD "").toNat?.getD 0), rest, arguments.drop 1)
  | _ =>
    let digits := text.takeWhile Char.isDigit
    (Text.number? 10 digits, text.drop digits.length, arguments)

/-- The layout behind a percent sign, the rest of the format, and the arguments that are left. -/
def layout? (text : List Char) (arguments : List String) :
    Option (Layout × List Char × List String) :=
  let flags := text.takeWhile (· ∈ ['-', '0', '+', ' ', '#'])
  let (width, rest, arguments) := count (text.drop flags.length) arguments
  let (places, rest, arguments) := match rest with
    | '.' :: rest =>
      let (places, rest, arguments) := count rest arguments
      (some (places.getD 0), rest, arguments)
    | rest => (none, rest, arguments)
  match rest with
  | c :: rest =>
    some ({ toLeft := '-' ∈ flags, zeros := '0' ∈ flags, width := width.getD 0, places,
            conversion := c }, rest, arguments)
  | [] => none

/-- Fill a text up to the width of a layout. -/
def Layout.fill (layout : Layout) (zeros : Bool) (octets : List UInt8) : List UInt8 :=
  let missing := layout.width - octets.length
  if layout.toLeft then octets ++ List.replicate missing 32
  else if zeros then
    let sign := octets.takeWhile (· = 45)
    sign ++ List.replicate missing 48 ++ octets.drop sign.length
  else List.replicate missing 32 ++ octets

/-- The number that an argument writes; a quote stands before a character. -/
def number? (argument : String) : Option Int :=
  match argument.toList with
  | [] => some 0
  | '\'' :: c :: _ | '"' :: c :: _ => some c.toNat
  | '-' :: rest => (magnitude? rest).map fun n => -(n : Int)
  | '+' :: rest => (magnitude? rest).map Int.ofNat
  | rest => (magnitude? rest).map Int.ofNat
where
  /-- A number without a sign. -/
  magnitude? : List Char → Option Nat
    | '0' :: 'x' :: rest => Text.number? 16 rest
    | '0' :: c :: rest => Text.number? 8 (c :: rest)
    | rest => Text.number? 10 rest

/-- The digits of a whole number under a conversion; a negative number has its sign, or else stands
for the one that its 64 bits write. -/
def digits (conversion : Char) (value : Int) : String :=
  let word := (Int64.ofInt value).toUInt64.toNat
  match conversion with
  | 'x' => String.ofList (Nat.toDigits 16 word)
  | 'X' => (String.ofList (Nat.toDigits 16 word)).toUpper
  | 'o' => String.ofList (Nat.toDigits 8 word)
  | 'u' => toString word
  | _ => toString value

/-- What a conversion makes of an argument, and what it says about it. -/
def Layout.convert (layout : Layout) (argument : String) : List UInt8 × List String :=
  let shown (octets : List UInt8) : List UInt8 :=
    layout.fill false ((layout.places.map octets.take).getD octets)
  match layout.conversion with
  | 'b' => (shown (escaped (argument.length + 1) argument.toList).1, [])
  | 'c' => (layout.fill false ((argument.toList.take 1).flatMap ofChar), [])
  | 's' => (shown (Text.Utf8.encode argument), [])
  | conversion =>
    let text := digits conversion ((number? argument).getD 0)
    let padded := "".pushn '0' ((layout.places.getD 0) - text.length) ++ text
    (layout.fill (layout.zeros && layout.places.isNone) (Text.Utf8.encode padded),
      if (number? argument).isSome then [] else [argument ++ ": expected numeric value"])

/-- What is printed. -/
structure Printed where
  octets : List UInt8 := []
  complaints : List String := []
  /-- The arguments that are left. -/
  left : List String := []

/-- Print a format once. -/
def once : Nat → List Char → List String → Printed
  | 0, _, arguments | _, [], arguments => { left := arguments }
  | fuel + 1, '\\' :: c :: rest, arguments =>
    let (octets, rest) :=
      if isOctal c then
        let (octet, length) := octal 3 (c :: rest)
        ([octet], (c :: rest).drop length)
      else
        match letter? c with
        | some octet => ([octet], rest)
        | none => if c = '"' || c = '\'' then (ofChar c, rest) else (92 :: ofChar c, rest)
    let more := once fuel rest arguments
    { more with octets := octets ++ more.octets }
  | fuel + 1, '%' :: '%' :: rest, arguments =>
    let more := once fuel rest arguments
    { more with octets := 37 :: more.octets }
  | fuel + 1, '%' :: rest, arguments =>
    match layout? rest arguments with
    | none => { octets := [37], left := arguments }
    | some (layout, rest, arguments) =>
      let (octets, complaints) := layout.convert (arguments.headD "")
      let more := once fuel rest (arguments.drop 1)
      { more with octets := octets ++ more.octets, complaints := complaints ++ more.complaints }
  | fuel + 1, c :: rest, arguments =>
    let more := once fuel rest arguments
    { more with octets := ofChar c ++ more.octets }

/-- Print a format as often as there are arguments for it. -/
def repeated (format : List Char) : Nat → List String → Printed
  | 0, _ => {}
  | fuel + 1, arguments =>
    let first := once (format.length + 1) format arguments
    if first.left.isEmpty || first.left.length = arguments.length then first
    else
      let more := repeated format fuel first.left
      { octets := first.octets ++ more.octets, complaints := first.complaints ++ more.complaints }

/-- What `printf` prints, and what it says about its arguments. -/
def printf (format : String) (arguments : List String) : Printed :=
  repeated format.toList (arguments.length + 1) arguments

end Reconciler.Shell.Format
