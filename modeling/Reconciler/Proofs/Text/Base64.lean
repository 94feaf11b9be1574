import Reconciler.Text.Base64
/-!
What is written in base 64 is read as the octets that were written.
-/
namespace Reconciler.Text.Base64

theorem value?_digit {value : Nat} (hvalue : value < 64) : value? (digit value) = some value := by
  have hall : ∀ value < 64, value? (digit value) = some value := by decide +kernel
  exact hall value hvalue

theorem digit_ne_padding {value : Nat} (hvalue : value < 64) : digit value ≠ '=' := by
  intro hpadding
  have hread := value?_digit hvalue
  rw [hpadding] at hread
  cases hread

section Groups

variable {p q r s : Nat}

/-- Two digits and padding are read as one octet. -/
theorem decode?_two (hp : p < 64) (hq : q < 64) (hrest : q % 16 = 0) :
    decode? [digit p, digit q, '=', '='] = some [UInt8.ofNat (p * 4 + q / 16)] := by
  simp only [decode?, value?_digit hp, value?_digit hq, Option.bind_eq_bind, Option.bind_some,
    hrest, if_true]

/-- Three digits and padding are read as two octets. -/
theorem decode?_three (hp : p < 64) (hq : q < 64) (hr : r < 64) (hrest : r % 4 = 0) :
    decode? [digit p, digit q, digit r, '='] =
      some [UInt8.ofNat (p * 4 + q / 16), UInt8.ofNat (q % 16 * 16 + r / 4)] := by
  rw [decode?]
  · simp [-UInt8.ofNat_add, -UInt8.ofNat_mul, value?_digit, hp, hq, hr, hrest]
  · intro hpadding
    exact absurd hpadding (digit_ne_padding hr)

/-- Four digits are read as three octets, whatever follows. -/
theorem decode?_four {rest : List Char} (hp : p < 64) (hq : q < 64) (hr : r < 64) (hs : s < 64) :
    decode? (digit p :: digit q :: digit r :: digit s :: rest) =
      (decode? rest).map fun octets => UInt8.ofNat (p * 4 + q / 16) ::
        UInt8.ofNat (q % 16 * 16 + r / 4) :: UInt8.ofNat (r % 4 * 64 + s) :: octets := by
  rw [decode?]
  · simp only [value?_digit, hp, hq, hr, hs, if_neg (digit_ne_padding hs), Option.bind_eq_bind,
      Option.bind_some]
    cases decode? rest <;> rfl
  · intro hpadding
    exact absurd hpadding (digit_ne_padding hr)

end Groups

theorem decode?_encode (octets : List UInt8) : decode? (encode octets) = some octets := by
  have hback : ∀ (octet : UInt8) (value : Nat), value = octet.toNat →
      UInt8.ofNat value = octet := by
    rintro octet value rfl
    exact UInt8.ofNat_toNat
  induction octets using encode.induct with
  | case1 => rfl
  | case2 a =>
      have ha := a.toNat_lt
      rw [encode, decode?_two (by omega) (by omega) (by omega), hback a _ (by omega)]
  | case3 a b =>
      have ha := a.toNat_lt
      have hb := b.toNat_lt
      rw [encode, decode?_three (by omega) (by omega) (by omega) (by omega), hback a _ (by omega),
        hback b _ (by omega)]
  | case4 a b c rest ih =>
      have ha := a.toNat_lt
      have hb := b.toNat_lt
      have hc := c.toNat_lt
      rw [encode, decode?_four (by omega) (by omega) (by omega) (by omega), ih,
        hback a _ (by omega), hback b _ (by omega), hback c _ (by omega)]
      rfl

end Reconciler.Text.Base64
