/-!
Reading octets as UTF-8.  The reader splits the octets into characters and ill-formed pieces, an
ill-formed piece being the longest beginning of a character that the next octet cannot continue.
A strict reading allows no such piece, a lenient one shows U+FFFD for each.
-/
namespace Reconciler.Text.Utf8

/-- A character of which some octets are still owed: its code so far, how many octets are owed,
and the least and the greatest value of the next one. -/
structure Pending where
  code : Nat
  owed : Nat
  low : Nat
  high : Nat
deriving DecidableEq, Repr

/-- The state after a leading octet above ASCII, if it can lead a character at all.  The bounds on
the next octet keep out overlong forms, surrogates and codes above U+10FFFF. -/
def lead? (octet : Nat) : Option Pending :=
  if octet < 0xc2 then none
  else if octet < 0xe0 then some ⟨octet - 0xc0, 1, 0x80, 0xbf⟩
  else if octet = 0xe0 then some ⟨0, 2, 0xa0, 0xbf⟩
  else if octet = 0xed then some ⟨0xd, 2, 0x80, 0x9f⟩
  else if octet < 0xf0 then some ⟨octet - 0xe0, 2, 0x80, 0xbf⟩
  else if octet = 0xf0 then some ⟨0, 3, 0x90, 0xbf⟩
  else if octet < 0xf4 then some ⟨octet - 0xf0, 3, 0x80, 0xbf⟩
  else if octet = 0xf4 then some ⟨4, 3, 0x80, 0x8f⟩
  else none

/-- What an octet between characters yields: a character, an ill-formed piece (`none`), or nothing
yet. -/
def start (octet : Nat) : List (Option Char) × Option Pending :=
  if octet < 0x80 then ([some (Char.ofNat octet)], none)
  else match lead? octet with
    | none => ([none], none)
    | some pending => ([], some pending)

/-- What the next octet yields. -/
def step (pending : Option Pending) (octet : Nat) : List (Option Char) × Option Pending :=
  match pending with
  | none => start octet
  | some p =>
    if p.low ≤ octet ∧ octet ≤ p.high then
      let code := p.code * 64 + octet % 64
      if p.owed ≤ 1 then ([some (Char.ofNat code)], none)
      else ([], some ⟨code, p.owed - 1, 0x80, 0xbf⟩)
    else
      let (pieces, next) := start octet
      (none :: pieces, next)

/-- The characters and ill-formed pieces (`none`) of some octets. -/
def pieces : Option Pending → List UInt8 → List (Option Char)
  | none, [] => []
  | some _, [] => [none]
  | pending, octet :: rest =>
    let (found, next) := step pending octet.toNat
    found ++ pieces next rest

/-- Strict reading: every octet belongs to a character. -/
def decode? (octets : List UInt8) : Option String :=
  ((pieces none octets).mapM id).map String.ofList

/-- Lenient reading: U+FFFD stands for each ill-formed piece. -/
def decodeLossy (octets : List UInt8) : String :=
  String.ofList ((pieces none octets).map (·.getD '\ufffd'))

/-- The octets of a text. -/
def encode (s : String) : List UInt8 :=
  s.toUTF8.data.toList

example : decode? [0xc3, 0x84] = some "Ä" := by decide +kernel
example : decodeLossy [0x61, 0xff, 0xc3, 0x28, 0x62] = "a\ufffd\ufffd(b" := by decide +kernel

end Reconciler.Text.Utf8
