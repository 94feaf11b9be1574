import Mathlib
import Reconciler.Text.Utf8
/-!
The octets that are read strictly are those of a text.  A character is read octet by octet, and what
is owed after each of its octets leaves no choice but the octets that the character is written with.
-/
namespace Reconciler.Text.Utf8

/-- What is owed after the leading octet, by its value. -/
theorem lead?_eq_some_iff {octet : Nat} {p : Pending} :
    lead? octet = some p ↔
      0xc2 ≤ octet ∧ octet < 0xe0 ∧ p = ⟨octet - 0xc0, 1, 0x80, 0xbf⟩ ∨
      0xe0 ≤ octet ∧ octet < 0xf0 ∧ p = ⟨octet - 0xe0, 2,
        if octet = 0xe0 then 0xa0 else 0x80, if octet = 0xed then 0x9f else 0xbf⟩ ∨
      0xf0 ≤ octet ∧ octet ≤ 0xf4 ∧ p = ⟨octet - 0xf0, 3,
        if octet = 0xf0 then 0x90 else 0x80, if octet = 0xf4 then 0x8f else 0xbf⟩ := by
  unfold lead?
  grind

/-- An octet within the bounds of what is owed. -/
def Pending.Admits (p : Pending) (octet : UInt8) : Prop :=
  p.low ≤ octet.toNat ∧ octet.toNat ≤ p.high

/-- What is owed after an octet that was owed. -/
def Pending.next (p : Pending) (octet : UInt8) : Pending :=
  ⟨p.code * 64 + octet.toNat % 64, p.owed - 1, 0x80, 0xbf⟩

/-- The octets of a character, as they are owed one after another, and its code. -/
inductive Spells : Pending → List UInt8 → Nat → Prop where
  | last {p : Pending} {octet : UInt8} (howed : p.owed ≤ 1) (hadmits : p.Admits octet) :
      Spells p [octet] (p.next octet).code
  | more {p : Pending} {octet : UInt8} {octets : List UInt8} {code : Nat} (howed : 1 < p.owed)
      (hadmits : p.Admits octet) (hrest : Spells (p.next octet) octets code) :
      Spells p (octet :: octets) code

/-- The octets of a character and its code. -/
inductive SpellsChar : List UInt8 → Nat → Prop where
  | ascii {octet : UInt8} (hsmall : octet.toNat < 0x80) : SpellsChar [octet] octet.toNat
  | wide {octet : UInt8} {p : Pending} {octets : List UInt8} {code : Nat}
      (hlead : lead? octet.toNat = some p) (hrest : Spells p octets code) :
      SpellsChar (octet :: octets) code

variable {p : Pending} {octets : List UInt8} {code : Nat}

theorem pieces_of_admits {octet : UInt8} (hadmits : p.Admits octet) (rest : List UInt8) :
    pieces (some p) (octet :: rest) =
      if p.owed ≤ 1 then some (Char.ofNat (p.next octet).code) :: pieces none rest
      else pieces (some (p.next octet)) rest := by
  obtain ⟨hlow, hhigh⟩ := hadmits
  by_cases howed : p.owed ≤ 1 <;> simp [pieces, step, hlow, hhigh, howed, Pending.next]

/-- What is owed is read to its end. -/
theorem Spells.pieces_append (h : Spells p octets code) (rest : List UInt8) :
    pieces (some p) (octets ++ rest) = some (Char.ofNat code) :: pieces none rest := by
  induction h with
  | last howed hadmits => exact (pieces_of_admits hadmits rest).trans (if_pos howed)
  | more howed hadmits _ ih =>
      exact (pieces_of_admits hadmits _).trans ((if_neg (Nat.not_le.2 howed)).trans ih)

theorem pieces_of_lead {octet : UInt8} (hlead : lead? octet.toNat = some p) (rest : List UInt8) :
    pieces none (octet :: rest) = pieces (some p) rest := by
  have hbound : ¬ octet.toNat < 0x80 := by
    rcases lead?_eq_some_iff.1 hlead with h | h | h <;> omega
  simp [pieces, step, start, hlead, hbound]

/-- The octets of a character are read as the character. -/
theorem SpellsChar.pieces_append (h : SpellsChar octets code) (rest : List UInt8) :
    pieces none (octets ++ rest) = some (Char.ofNat code) :: pieces none rest := by
  cases h with
  | ascii hsmall => simp [pieces, step, start, hsmall]
  | wide hlead hrest => exact (pieces_of_lead hlead _).trans (hrest.pieces_append rest)

/-- If nothing is ill-formed, what is owed follows. -/
theorem exists_spells (hstrict : none ∉ pieces (some p) octets) :
    ∃ front tail code, octets = front ++ tail ∧ Spells p front code := by
  induction octets generalizing p with
  | nil => simp [pieces] at hstrict
  | cons octet rest ih =>
      by_cases hadmits : p.Admits octet
      · rw [pieces_of_admits hadmits] at hstrict
        by_cases howed : p.owed ≤ 1
        · exact ⟨[octet], rest, _, rfl, .last howed hadmits⟩
        · rw [if_neg howed] at hstrict
          obtain ⟨front, tail, code, rfl, hrest⟩ := ih hstrict
          exact ⟨octet :: front, tail, code, rfl, .more (Nat.not_le.1 howed) hadmits hrest⟩
      · have hbounds : ¬ (p.low ≤ octet.toNat ∧ octet.toNat ≤ p.high) := hadmits
        simp [pieces, step, hbounds] at hstrict

theorem exists_spellsChar {octet : UInt8} {rest : List UInt8}
    (hstrict : none ∉ pieces none (octet :: rest)) :
    ∃ front tail code, octet :: rest = front ++ tail ∧ SpellsChar front code := by
  by_cases hsmall : octet.toNat < 0x80
  · exact ⟨[octet], rest, _, rfl, .ascii hsmall⟩
  · cases hlead : lead? octet.toNat with
    | none => simp [pieces, step, start, hsmall, hlead] at hstrict
    | some p =>
        rw [pieces_of_lead hlead] at hstrict
        obtain ⟨front, tail, code, rfl, hrest⟩ := exists_spells hstrict
        exact ⟨octet :: front, tail, code, rfl, .wide hlead hrest⟩

/-- What the character with a code is written with. -/
theorem encodeChar_ofNat (hvalid : code.isValidChar) :
    String.utf8EncodeChar (Char.ofNat code) =
      if code ≤ 127 then [UInt8.ofNat code]
      else if code ≤ 2047 then [UInt8.ofNat (code / 64 % 32 + 192), UInt8.ofNat (code % 64 + 128)]
      else if code ≤ 65535 then
        [UInt8.ofNat (code / 4096 % 16 + 224), UInt8.ofNat (code / 64 % 64 + 128),
          UInt8.ofNat (code % 64 + 128)]
      else
        [UInt8.ofNat (code / 262144 % 8 + 240), UInt8.ofNat (code / 4096 % 64 + 128),
          UInt8.ofNat (code / 64 % 64 + 128), UInt8.ofNat (code % 64 + 128)] := by
  have hcode : (Char.ofNat code).val.toNat = code := by
    rw [Char.toNat_val, Char.toNat_ofNat, if_pos hvalid]
  simp only [String.utf8EncodeChar, hcode]

theorem ofNat_eq {value : Nat} {octet : UInt8} (hvalue : value = octet.toNat) :
    UInt8.ofNat value = octet := by
  rw [hvalue, UInt8.ofNat_toNat]

theorem Spells.exists_last (h : Spells p octets code) (howed : p.owed ≤ 1) :
    ∃ octet, p.Admits octet ∧ octets = [octet] ∧ code = (p.next octet).code := by
  cases h with
  | last _ hadmits => exact ⟨_, hadmits, rfl, rfl⟩
  | more hmore => omega

theorem Spells.exists_more (h : Spells p octets code) (howed : 1 < p.owed) :
    ∃ octet rest, p.Admits octet ∧ octets = octet :: rest ∧ Spells (p.next octet) rest code := by
  cases h with
  | last hlast => omega
  | more _ hadmits hrest => exact ⟨_, _, hadmits, rfl, hrest⟩

/-- A lower bound that is raised in one case. -/
theorem le_of_ite_le {case : Prop} [Decidable case] {low raised n : Nat} (hraised : low ≤ raised)
    (h : (if case then raised else low) ≤ n) : low ≤ n ∧ (case → raised ≤ n) := by
  by_cases hcase : case
  · rw [if_pos hcase] at h
    exact ⟨Nat.le_trans hraised h, fun _ => h⟩
  · rw [if_neg hcase] at h
    exact ⟨h, fun hother => absurd hother hcase⟩

/-- An upper bound that is lowered in one case. -/
theorem le_of_le_ite {case : Prop} [Decidable case] {high lowered n : Nat}
    (hlowered : lowered ≤ high) (h : n ≤ if case then lowered else high) :
    n ≤ high ∧ (case → n ≤ lowered) := by
  by_cases hcase : case
  · rw [if_pos hcase] at h
    exact ⟨Nat.le_trans h hlowered, fun _ => h⟩
  · rw [if_neg hcase] at h
    exact ⟨h, fun hother => absurd hother hcase⟩

/-- The octets of a character are those that it is written with. -/
theorem SpellsChar.encodeChar (h : SpellsChar octets code) :
    String.utf8EncodeChar (Char.ofNat code) = octets := by
  cases h with
  | ascii hsmall =>
      rw [encodeChar_ofNat (.inl (by omega)), if_pos (by omega), UInt8.ofNat_toNat]
  | wide hlead hrest =>
      rcases lead?_eq_some_iff.1 hlead with
        ⟨hlow, hhigh, rfl⟩ | ⟨hlow, hhigh, rfl⟩ | ⟨hlow, hhigh, rfl⟩
      · obtain ⟨second, ⟨hsecondLow, hsecondHigh⟩, rfl, rfl⟩ := hrest.exists_last (by simp)
        simp only [Pending.next] at hsecondLow hsecondHigh ⊢
        rw [encodeChar_ofNat (.inl (by omega)), if_neg (by omega), if_pos (by omega)]
        simp only [List.cons.injEq, and_true]
        exact ⟨ofNat_eq (by omega), ofNat_eq (by omega)⟩
      · obtain ⟨second, _, ⟨hsecondLow, hsecondHigh⟩, rfl, hlater⟩ := hrest.exists_more (by simp)
        obtain ⟨third, ⟨hthirdLow, hthirdHigh⟩, rfl, rfl⟩ :=
          hlater.exists_last (by simp [Pending.next])
        simp only [Pending.next] at hsecondLow hsecondHigh hthirdLow hthirdHigh ⊢
        obtain ⟨hsecond, hoverlong⟩ := le_of_ite_le (by omega) hsecondLow
        obtain ⟨hsecond', hsurrogate⟩ := le_of_le_ite (by omega) hsecondHigh
        rw [encodeChar_ofNat (by omega), if_neg (by omega), if_neg (by omega), if_pos (by omega)]
        simp only [List.cons.injEq, and_true]
        exact ⟨ofNat_eq (by omega), ofNat_eq (by omega), ofNat_eq (by omega)⟩
      · obtain ⟨second, _, ⟨hsecondLow, hsecondHigh⟩, rfl, hlater⟩ := hrest.exists_more (by simp)
        obtain ⟨third, _, ⟨hthirdLow, hthirdHigh⟩, rfl, hlast⟩ :=
          hlater.exists_more (by simp [Pending.next])
        obtain ⟨fourth, ⟨hfourthLow, hfourthHigh⟩, rfl, rfl⟩ :=
          hlast.exists_last (by simp [Pending.next])
        simp only [Pending.next] at hsecondLow hsecondHigh hthirdLow hthirdHigh ⊢
        simp only [Pending.next] at hfourthLow hfourthHigh
        obtain ⟨hsecond, hoverlong⟩ := le_of_ite_le (by omega) hsecondLow
        obtain ⟨hsecond', hgreatest⟩ := le_of_le_ite (by omega) hsecondHigh
        rw [encodeChar_ofNat (by omega), if_neg (by omega), if_neg (by omega), if_neg (by omega)]
        simp only [List.cons.injEq, and_true]
        exact ⟨ofNat_eq (by omega), ofNat_eq (by omega), ofNat_eq (by omega), ofNat_eq (by omega)⟩

namespace SpellsChar

variable {first second third fourth : UInt8}

theorem two (hfirst : 0xc2 ≤ first.toNat ∧ first.toNat < 0xe0)
    (hsecond : 0x80 ≤ second.toNat ∧ second.toNat ≤ 0xbf)
    (hcode : code = (first.toNat - 0xc0) * 64 + second.toNat % 64) :
    SpellsChar [first, second] code := by
  subst hcode
  exact .wide (lead?_eq_some_iff.2 (.inl ⟨hfirst.1, hfirst.2, rfl⟩)) (.last (by simp) hsecond)

theorem three (hfirst : 0xe0 ≤ first.toNat ∧ first.toNat < 0xf0)
    (hsecond : (if first.toNat = 0xe0 then 0xa0 else 0x80) ≤ second.toNat ∧
      second.toNat ≤ if first.toNat = 0xed then 0x9f else 0xbf)
    (hthird : 0x80 ≤ third.toNat ∧ third.toNat ≤ 0xbf)
    (hcode : code = ((first.toNat - 0xe0) * 64 + second.toNat % 64) * 64 + third.toNat % 64) :
    SpellsChar [first, second, third] code := by
  subst hcode
  exact .wide (lead?_eq_some_iff.2 (.inr (.inl ⟨hfirst.1, hfirst.2, rfl⟩)))
    (.more (by simp) hsecond (.last (by simp [Pending.next]) hthird))

theorem four (hfirst : 0xf0 ≤ first.toNat ∧ first.toNat ≤ 0xf4)
    (hsecond : (if first.toNat = 0xf0 then 0x90 else 0x80) ≤ second.toNat ∧
      second.toNat ≤ if first.toNat = 0xf4 then 0x8f else 0xbf)
    (hthird : 0x80 ≤ third.toNat ∧ third.toNat ≤ 0xbf)
    (hfourth : 0x80 ≤ fourth.toNat ∧ fourth.toNat ≤ 0xbf)
    (hcode : code = (((first.toNat - 0xf0) * 64 + second.toNat % 64) * 64 + third.toNat % 64) * 64 +
      fourth.toNat % 64) :
    SpellsChar [first, second, third, fourth] code := by
  subst hcode
  exact .wide (lead?_eq_some_iff.2 (.inr (.inr ⟨hfirst.1, hfirst.2, rfl⟩)))
    (.more (by simp) hsecond
      (.more (by simp [Pending.next]) hthird (.last (by simp [Pending.next]) hfourth)))

end SpellsChar

/-- A character is written with its octets. -/
theorem spellsChar_encodeChar (c : Char) : SpellsChar (String.utf8EncodeChar c) c.toNat := by
  have hvalid : c.toNat.isValidChar := c.valid
  rw [← Char.ofNat_toNat c, encodeChar_ofNat hvalid, Char.ofNat_toNat c]
  generalize c.toNat = code at hvalid
  have hoctet : ∀ value < 256, (UInt8.ofNat value).toNat = value := fun _ =>
    UInt8.toNat_ofNat_of_lt'
  split
  · have hascii : SpellsChar [UInt8.ofNat code] (UInt8.ofNat code).toNat := by
      refine .ascii ?_
      rw [hoctet code (by omega)]
      omega
    rwa [hoctet code (by omega)] at hascii
  have hthird := hoctet (code / 64 % 64 + 128) (by omega)
  have hfourth := hoctet (code % 64 + 128) (by omega)
  split
  · have hfirst := hoctet (code / 64 % 32 + 192) (by omega)
    apply SpellsChar.two <;> omega
  split
  · have hfirst := hoctet (code / 4096 % 16 + 224) (by omega)
    apply SpellsChar.three
    case hsecond => constructor <;> split <;> omega
    all_goals omega
  · have hfirst := hoctet (code / 262144 % 8 + 240) (by omega)
    have hsecond := hoctet (code / 4096 % 64 + 128) (by omega)
    apply SpellsChar.four
    case hsecond => constructor <;> split <;> omega
    all_goals omega

theorem encode_ofList (chars : List Char) :
    encode (String.ofList chars) = chars.flatMap String.utf8EncodeChar := by
  rw [encode, String.toUTF8, String.toByteArray_ofList, List.utf8Encode,
    List.data_toByteArray]

/-- A text is read from the octets that it is written with. -/
theorem pieces_flatMap (chars : List Char) :
    pieces none (chars.flatMap String.utf8EncodeChar) = chars.map some := by
  induction chars with
  | nil => rfl
  | cons c rest ih =>
      rw [List.flatMap_cons, (spellsChar_encodeChar c).pieces_append, ih, Char.ofNat_toNat]
      rfl

/-- What can be read strictly is what some text is written with. -/
theorem exists_chars (hstrict : none ∉ pieces none octets) :
    ∃ chars : List Char, octets = chars.flatMap String.utf8EncodeChar := by
  induction hlength : octets.length using Nat.strong_induction_on generalizing octets with
  | _ length ih =>
      cases octets with
      | nil => exact ⟨[], rfl⟩
      | cons octet rest =>
          obtain ⟨front, tail, code, hsplit, hspells⟩ := exists_spellsChar hstrict
          rw [hsplit] at hstrict hlength ⊢
          rw [hspells.pieces_append, List.mem_cons, not_or] at hstrict
          have hfront : 0 < front.length := by cases hspells <;> simp
          have hshorter : tail.length < length := by
            rw [← hlength, List.length_append]
            omega
          obtain ⟨chars, rfl⟩ := ih tail.length hshorter hstrict.2 rfl
          exact ⟨Char.ofNat code :: chars, by rw [List.flatMap_cons, hspells.encodeChar]⟩

theorem mapM_id_eq_some_iff {found : List (Option Char)} {chars : List Char} :
    found.mapM id = some chars ↔ found = chars.map some := by
  induction found generalizing chars with
  | nil => cases chars <;> simp
  | cons first rest ih =>
      rw [List.mapM_cons]
      cases first with
      | none => cases chars <;> simp
      | some c => cases chars <;> simp [Option.bind_eq_some_iff, ih, and_comm]

/-- Octets are read strictly as the text that is written with them. -/
theorem decode?_eq_some_iff {text : String} :
    decode? octets = some text ↔ octets = encode text := by
  obtain ⟨chars, rfl⟩ : ∃ chars, String.ofList chars = text := ⟨text.toList, by simp⟩
  rw [decode?, Option.map_eq_some_iff, encode_ofList]
  constructor
  · rintro ⟨found, hfound, hsame⟩
    obtain rfl : found = chars := String.ofList_injective hsame
    have hpieces := mapM_id_eq_some_iff.1 hfound
    have hstrict : none ∉ pieces none octets := by simp [hpieces]
    obtain ⟨others, rfl⟩ := exists_chars hstrict
    rw [pieces_flatMap] at hpieces
    rw [List.map_injective_iff.2 (Option.some_injective _) hpieces]
  · rintro rfl
    exact ⟨chars, mapM_id_eq_some_iff.2 (pieces_flatMap chars), rfl⟩

/-- Octets that no text is written with are not read strictly. -/
theorem decode?_eq_none_iff : decode? octets = none ↔ ∀ text, octets ≠ encode text := by
  rw [Option.eq_none_iff_forall_ne_some]
  exact forall_congr' fun text => not_congr decode?_eq_some_iff

end Reconciler.Text.Utf8
