import Mathlib
import Reconciler.Attempt
import Reconciler.Time.Rfc3339
import Reconciler.Proofs.Time.Calendar
import Reconciler.Proofs.Text.Blank
/-!
Times as text.  What is written with some decimal places is read as the time cut off to them.
-/
namespace Reconciler

namespace Text

theorem natOfDigits_eq (digits : List Char) :
    natOfDigits digits = Nat.ofDigitChars 10 digits 0 := by
  simp [natOfDigits, Nat.ofDigitChars, digitValue, Nat.mul_comm]

theorem natOfDigits_append (front back : List Char) :
    natOfDigits (front ++ back) = natOfDigits front * 10 ^ back.length + natOfDigits back := by
  rw [natOfDigits_eq, natOfDigits_eq, natOfDigits_eq, Nat.ofDigitChars_append,
    Nat.ofDigitChars_eq_ofDigitChars_zero, Nat.mul_comm]

theorem digitValue_lt {c : Char} (hdigit : c.isDigit = true) : digitValue c < 10 := by
  simp only [Char.isDigit, Bool.and_eq_true, decide_eq_true_eq, UInt32.le_iff_toNat_le] at hdigit
  obtain ⟨_, hhigh⟩ := hdigit
  have hnine : c.toNat ≤ 57 := hhigh
  change c.toNat - 48 < 10
  omega

theorem not_isBlank_of_isDigit {c : Char} (hdigit : c.isDigit = true) : isBlank c = false := by
  simp only [Char.isDigit, Bool.and_eq_true, decide_eq_true_eq] at hdigit
  have hlow : 48 ≤ c.toNat := hdigit.1
  have hhigh : c.toNat ≤ 57 := hdigit.2
  simp only [isBlank, Bool.or_eq_false_iff, Bool.and_eq_false_iff, decide_eq_false_iff_not,
    beq_eq_false_iff_ne]
  omega

theorem natOfDigits_lt {digits : List Char} (hdigits : ∀ c ∈ digits, c.isDigit = true) :
    natOfDigits digits < 10 ^ digits.length := by
  induction digits with
  | nil => decide
  | cons c rest ih =>
      have hrest := ih fun other hmem => hdigits other (List.mem_cons_of_mem _ hmem)
      have hfirst := digitValue_lt (hdigits c List.mem_cons_self)
      have hsplit :
          natOfDigits (c :: rest) = digitValue c * 10 ^ rest.length + natOfDigits rest := by
        have happend := natOfDigits_append [c] rest
        simpa [natOfDigits] using happend
      have hle : digitValue c * 10 ^ rest.length ≤ 9 * 10 ^ rest.length :=
        Nat.mul_le_mul_right _ (by omega)
      rw [hsplit, List.length_cons, Nat.pow_succ]
      omega

end Text

namespace Rfc3339

theorem isDigit_of_mem_padded {width n : Nat} {c : Char} (hmem : c ∈ padded width n) :
    c.isDigit = true := by
  rcases List.mem_append.1 hmem with hzero | hdigit
  · rw [List.eq_of_mem_replicate hzero]
    rfl
  · exact Nat.isDigit_of_mem_toDigits (by decide) (by decide) hdigit

theorem length_padded {width n : Nat} (hwidth : 0 < width) (hn : n < 10 ^ width) :
    (padded width n).length = width := by
  have hle := (Nat.length_toDigits_le_iff (by decide) hwidth).2 hn
  simp only [padded, List.length_append, List.length_replicate]
  omega

theorem natOfDigits_padded (width n : Nat) : Text.natOfDigits (padded width n) = n := by
  rw [padded, Text.natOfDigits_eq, Nat.ofDigitChars_append, Nat.ofDigitChars_replicate_zero,
    Nat.mul_zero, Nat.ofDigitChars_ten_toDigits]

/-- A number of known width is read whatever follows it. -/
theorem number?_padded {least width n : Nat} (hleast : least ≤ width) (hwidth : 0 < width)
    (hn : n < 10 ^ width) (rest : List Char) :
    number? least width (padded width n ++ rest) = some (n, rest) := by
  have hlength := length_padded hwidth hn
  have htake : (padded width n ++ rest).take width = padded width n := by
    rw [List.take_append_of_le_length (Nat.le_of_eq hlength.symm), List.take_of_length_le]
    exact Nat.le_of_eq hlength
  have hdigits : (padded width n).takeWhile Char.isDigit = padded width n :=
    List.takeWhile_eq_self_iff.2 fun c hmem => isDigit_of_mem_padded hmem
  simp only [number?, htake, hdigits, hlength, Nat.not_lt.2 hleast, if_false, natOfDigits_padded]
  rw [List.drop_append_of_le_length (Nat.le_of_eq hlength.symm), List.drop_of_length_le]
  · rfl
  · exact Nat.le_of_eq hlength

theorem char?_cons (c : Char) (rest : List Char) : char? c (c :: rest) = some rest :=
  if_pos rfl

/-- The leading places of nine digits stand for what is left when the other places are cut off. -/
theorem natOfDigits_take_padded {places nanos : Nat} (hnanos : nanos < 10 ^ 9) :
    Text.natOfDigits ((padded 9 nanos).take places) = nanos / 10 ^ (9 - places) := by
  have hlength := length_padded (by decide) hnanos
  have hdrop : ((padded 9 nanos).drop places).length = 9 - places := by
    rw [List.length_drop, hlength]
  have hsplit :=
    Text.natOfDigits_append ((padded 9 nanos).take places) ((padded 9 nanos).drop places)
  rw [List.take_append_drop, natOfDigits_padded, hdrop] at hsplit
  have hlt : Text.natOfDigits ((padded 9 nanos).drop places) < 10 ^ (9 - places) := by
    rw [← hdrop]
    exact Text.natOfDigits_lt fun c hmem => isDigit_of_mem_padded (List.mem_of_mem_drop hmem)
  have hpos : 0 < 10 ^ (9 - places) := Nat.pow_pos (by decide)
  conv => rhs; rw [hsplit, Nat.mul_comm, Nat.mul_add_div hpos, Nat.div_eq_of_lt hlt, Nat.add_zero]

/-- The nanoseconds of a time that is written with some decimal places. -/
def cut (places nanos : Nat) : Nat :=
  nanos / 10 ^ (9 - places) * 10 ^ (9 - places)

theorem cut_le (places nanos : Nat) : cut places nanos ≤ nanos :=
  Nat.div_mul_le_self nanos _

theorem cut_zero {nanos : Nat} (hnanos : nanos < 10 ^ 9) : cut 0 nanos = 0 := by
  rw [cut, Nat.div_eq_of_lt hnanos, Nat.zero_mul]

/-- A fraction is read up to the mark that ends the text. -/
theorem fraction?_write {places nanos : Nat} (hplaces : places ≤ 9) (hnanos : nanos < 10 ^ 9) :
    fraction? ((if places = 0 then [] else '.' :: (padded 9 nanos).take places) ++ ['Z']) =
      some (cut places nanos, ['Z']) := by
  by_cases hzero : places = 0
  · rw [hzero, if_pos rfl, cut_zero hnanos]
    rfl
  · have hlength : ((padded 9 nanos).take places).length = places := by
      rw [List.length_take, length_padded (by decide) hnanos]
      omega
    have hdigits : ((padded 9 nanos).take places ++ ['Z']).takeWhile Char.isDigit =
        (padded 9 nanos).take places := by
      rw [List.takeWhile_append_of_pos fun c hmem =>
        isDigit_of_mem_padded (List.mem_of_mem_take hmem)]
      simp
    have hne : ((padded 9 nanos).take places).isEmpty = false := by
      rw [List.isEmpty_eq_false_iff, ← List.length_pos_iff, hlength]
      omega
    have hkept : ((padded 9 nanos).take places).take 9 = (padded 9 nanos).take places :=
      List.take_of_length_le (by omega)
    simp only [if_neg hzero, List.cons_append, fraction?, hdigits, hne, hkept, hlength,
      natOfDigits_take_padded hnanos]
    rw [List.drop_append_of_le_length (Nat.le_of_eq hlength.symm),
      List.drop_of_length_le (Nat.le_of_eq hlength)]
    rfl

end Rfc3339

/-- The calendar year of a time in UTC. -/
def Instant.year (t : Instant) : Int :=
  (Date.ofDays (t.seconds.fdiv 86400)).year

/-- A time that its text stands for: its year has four digits and its second is no leap second. -/
def Instant.Civil (t : Instant) : Prop :=
  0 ≤ t.year ∧ t.year ≤ 9999 ∧ t.nanos < 1000000000

instance (t : Instant) : Decidable t.Civil :=
  inferInstanceAs (Decidable (_ ∧ _ ∧ _))

namespace Rfc3339

/-- A reader that reads parts which are written with their widths, in UTC. -/
def ReadsParts (read : String → Option Instant) : Prop :=
  ∀ {text : String} {year month day hour minute second nanos : Nat} {fraction : List Char},
    year < 10 ^ 4 → month < 10 ^ 2 → day < 10 ^ 2 → hour < 10 ^ 2 → minute < 10 ^ 2 →
    second < 10 ^ 2 → fraction? (fraction ++ ['Z']) = some (nanos, ['Z']) →
    text.toList = padded 4 year ++ '-' :: (padded 2 month ++ '-' :: (padded 2 day ++
      'T' :: (padded 2 hour ++ ':' :: (padded 2 minute ++ ':' :: (padded 2 second ++
        (fraction ++ ['Z'])))))) →
    read text = assemble? ⟨year, month, day⟩ hour minute second nanos 0

/-- The strict reader reads the parts one after the other. -/
theorem readsParts_parse? : ReadsParts parse? := by
  intro text year month day hour minute second nanos fraction hyear hmonth hday hhour hminute
    hsecond hfraction htext
  unfold parse?
  rw [htext]
  refine Option.bind_eq_of_eq_some _ (number?_padded (by decide) (by decide) hyear _) ?_
  refine Option.bind_eq_of_eq_some _ (char?_cons '-' _) ?_
  refine Option.bind_eq_of_eq_some _ (number?_padded (by decide) (by decide) hmonth _) ?_
  refine Option.bind_eq_of_eq_some _ (char?_cons '-' _) ?_
  refine Option.bind_eq_of_eq_some _ (number?_padded (by decide) (by decide) hday _) ?_
  refine Option.bind_eq_of_eq_some _ (show separator? _ = some _ from rfl) ?_
  refine Option.bind_eq_of_eq_some _ (number?_padded (by decide) (by decide) hhour _) ?_
  refine Option.bind_eq_of_eq_some _ (char?_cons ':' _) ?_
  refine Option.bind_eq_of_eq_some _ (number?_padded (by decide) (by decide) hminute _) ?_
  refine Option.bind_eq_of_eq_some _ (char?_cons ':' _) ?_
  refine Option.bind_eq_of_eq_some _ (number?_padded (by decide) (by decide) hsecond _) ?_
  refine Option.bind_eq_of_eq_some _ hfraction ?_
  refine Option.bind_eq_of_eq_some _ (show offset? (char? ':') ['Z'] = some (0, []) from rfl) ?_
  rfl

/-- No number begins with a blank or a sign. -/
theorem exists_padded_eq_cons (width n : Nat) :
    ∃ c digits, padded width n = c :: digits ∧ Text.isBlank c = false ∧ c ≠ '-' ∧ c ≠ '+' := by
  have hne : padded width n ≠ [] := by
    intro hnil
    have hdigits := (List.append_eq_nil_iff.1 hnil).2
    exact Nat.toDigits_ne_nil hdigits
  obtain ⟨c, digits, hcons⟩ := List.exists_cons_of_ne_nil hne
  have hdigit : c.isDigit = true :=
    isDigit_of_mem_padded (show c ∈ padded width n from hcons ▸ List.mem_cons_self)
  refine ⟨c, digits, hcons, Text.not_isBlank_of_isDigit hdigit, ?_, ?_⟩
  · rintro rfl
    cases hdigit
  · rintro rfl
    cases hdigit

theorem trimStart_padded (width n : Nat) (rest : List Char) :
    Text.trimStart (padded width n ++ rest) = padded width n ++ rest := by
  obtain ⟨c, digits, hcons, hblank, -, -⟩ := exists_padded_eq_cons width n
  rw [hcons, List.cons_append, Text.trimStart_cons hblank]

theorem looseYear?_padded {year : Nat} (hyear : year < 10 ^ 4) (rest : List Char) :
    looseYear? (padded 4 year ++ rest) = some ((year : Int), rest) := by
  have hnumber := number?_padded (by decide : 1 ≤ 4) (by decide) hyear rest
  obtain ⟨c, digits, hcons, -, hminus, hplus⟩ := exists_padded_eq_cons 4 year
  rw [hcons, List.cons_append] at hnumber ⊢
  unfold looseYear?
  split
  · rename_i heq
    exact absurd (List.cons_eq_cons.1 heq).1 hminus
  · rename_i heq
    exact absurd (List.cons_eq_cons.1 heq).1 hplus
  · rw [hnumber]
    rfl

theorem loosePair?_padded {n : Nat} (hn : n < 10 ^ 2) (rest : List Char) :
    loosePair? (padded 2 n ++ rest) = some (n, rest) := by
  rw [loosePair?, trimStart_padded, number?_padded (by decide) (by decide) hn]

theorem looseChar?_cons {c : Char} (hblank : Text.isBlank c = false) (rest : List Char) :
    looseChar? c (c :: rest) = some rest := by
  rw [looseChar?, Text.trimStart_cons hblank, char?_cons]

/-- A year with a sign is read up to the hyphen that follows it. -/
theorem number?_signed (n : Nat) (rest : List Char) :
    number? 1 (padded 4 n ++ '-' :: rest).length (padded 4 n ++ '-' :: rest) =
      some (n, '-' :: rest) := by
  have hdigits : (padded 4 n ++ '-' :: rest).takeWhile Char.isDigit = padded 4 n := by
    rw [List.takeWhile_append_of_pos fun c hmem => isDigit_of_mem_padded hmem]
    simp
  have hlength : ¬ (padded 4 n).length < 1 := by
    obtain ⟨c, digits, hcons, -⟩ := exists_padded_eq_cons 4 n
    rw [hcons, List.length_cons]
    omega
  simp only [number?, List.take_length, hdigits, if_neg hlength, natOfDigits_padded,
    List.drop_left]

theorem looseYear?_writeYear (year : Int) (rest : List Char) :
    looseYear? (Text.trimStart (writeYear year ++ '-' :: rest)) = some (year, '-' :: rest) := by
  unfold writeYear
  split
  · rename_i hyear
    rw [trimStart_padded, looseYear?_padded (by omega), Int.toNat_of_nonneg hyear.1]
  · rename_i hyear
    split
    · have hvalue : -(year.natAbs : Int) = year := by omega
      rw [List.cons_append, Text.trimStart_cons rfl, looseYear?, number?_signed]
      simp only [Option.map_some, hvalue]
    · have hvalue : (year.natAbs : Int) = year := by omega
      rw [List.cons_append, Text.trimStart_cons rfl, looseYear?, number?_signed]
      simp only [Option.map_some, hvalue]

/-- The relaxed reader reads parts with any year that it reads by itself. -/
theorem parseRelaxed?_parts {text : String} {year : Int} {month day hour minute second nanos : Nat}
    {written fraction : List Char}
    (hyear : ∀ rest,
      looseYear? (Text.trimStart (written ++ '-' :: rest)) = some (year, '-' :: rest))
    (hmonth : month < 10 ^ 2) (hday : day < 10 ^ 2) (hhour : hour < 10 ^ 2)
    (hminute : minute < 10 ^ 2) (hsecond : second < 10 ^ 2)
    (hfraction : fraction? (fraction ++ ['Z']) = some (nanos, ['Z']))
    (htext : text.toList = written ++ '-' :: (padded 2 month ++ '-' :: (padded 2 day ++
      'T' :: (padded 2 hour ++ ':' :: (padded 2 minute ++ ':' :: (padded 2 second ++
        (fraction ++ ['Z']))))))) :
    parseRelaxed? text = assemble? ⟨year, month, day⟩ hour minute second nanos 0 := by
  unfold parseRelaxed?
  rw [htext]
  refine Option.bind_eq_of_eq_some _ (hyear _) ?_
  refine Option.bind_eq_of_eq_some _ (looseChar?_cons rfl _) ?_
  refine Option.bind_eq_of_eq_some _ (loosePair?_padded hmonth _) ?_
  refine Option.bind_eq_of_eq_some _ (looseChar?_cons rfl _) ?_
  refine Option.bind_eq_of_eq_some _ (loosePair?_padded hday _) ?_
  refine Option.bind_eq_of_eq_some _ (show separator? _ = some _ from rfl) ?_
  refine Option.bind_eq_of_eq_some _ (loosePair?_padded hhour _) ?_
  refine Option.bind_eq_of_eq_some _ (looseChar?_cons rfl _) ?_
  refine Option.bind_eq_of_eq_some _ (loosePair?_padded hminute _) ?_
  refine Option.bind_eq_of_eq_some _ (looseChar?_cons rfl _) ?_
  refine Option.bind_eq_of_eq_some _ (loosePair?_padded hsecond _) ?_
  refine Option.bind_eq_of_eq_some _ hfraction ?_
  refine Option.bind_eq_of_eq_some _
    (show looseOffset? (Text.trimStart ['Z']) = some (0, []) by decide +kernel) ?_
  rfl

/-- The relaxed reader reads them too: there is no blank to skip and no sign. -/
theorem readsParts_parseRelaxed? : ReadsParts parseRelaxed? := by
  intro text year month day hour minute second nanos fraction hyear hmonth hday hhour hminute
    hsecond hfraction htext
  refine parseRelaxed?_parts (fun rest => ?_) hmonth hday hhour hminute hsecond hfraction htext
  rw [trimStart_padded, looseYear?_padded hyear]

/-- What is written in a year of four digits is read as the time cut off to the places written. -/
theorem ReadsParts.read_write {read : String → Option Instant} (hread : ReadsParts read)
    {places : Nat} (hplaces : places ≤ 9) {t : Instant} (ht : t.Civil) :
    read (write places t) = some ⟨t.seconds, cut places t.nanos,
      Nat.lt_of_le_of_lt (cut_le places t.nanos) t.nanos_lt⟩ := by
  obtain ⟨hyear, hyears, hnanos⟩ := ht
  have hdays : t.seconds.fdiv 86400 = t.seconds / 86400 :=
    Int.fdiv_eq_ediv_of_nonneg _ (by decide)
  unfold Instant.year at hyear hyears
  have hvalid := Date.isValid_ofDays (t.seconds.fdiv 86400)
  have htoDays := Date.toDays_ofDays (t.seconds.fdiv 86400)
  have hrest : (t.seconds - t.seconds.fdiv 86400 * 86400).toNat < 86400 := by omega
  have hnonneg : 0 ≤ t.seconds - t.seconds.fdiv 86400 * 86400 := by omega
  have hcut : cut places t.nanos < 2000000000 :=
    Nat.lt_of_le_of_lt (cut_le places t.nanos) t.nanos_lt
  unfold write
  simp only [hnanos, if_true, Nat.mod_eq_of_lt hnanos]
  generalize Date.ofDays (t.seconds.fdiv 86400) = date at *
  generalize hinDay : (t.seconds - t.seconds.fdiv 86400 * 86400).toNat = inDay at *
  obtain ⟨hmonth, hday⟩ := Date.lt_of_isValid hvalid
  have hwrite : writeYear date.year = padded 4 date.year.toNat := by
    rw [writeYear, if_pos ⟨hyear, hyears⟩]
  have hdate : (⟨(date.year.toNat : Int), date.month, date.day⟩ : Date) = date := by
    rw [Int.toNat_of_nonneg hyear]
  have hsecond : ¬ inDay % 60 = 60 := by omega
  rw [hread (by omega : date.year.toNat < 10 ^ 4) hmonth hday
    (by omega : inDay / 3600 < 10 ^ 2) (by omega : inDay / 60 % 60 < 10 ^ 2)
    (by omega : inDay % 60 < 10 ^ 2) (fraction?_write hplaces hnanos)
    (by simp only [hwrite, String.toList_ofList, List.append_assoc, List.cons_append]),
    hdate, assemble?, if_pos ⟨hvalid, by omega, by omega, by omega, by omega, by omega⟩]
  simp only [hsecond, if_false, dif_pos hcut, Option.some.injEq, Instant.mk.injEq, and_true,
    htoDays]
  omega

/-- Times that are written in whole seconds lose what is below a second. -/
theorem ReadsParts.read_write_zero {read : String → Option Instant} (hread : ReadsParts read)
    {t : Instant} (ht : t.Civil) : read (write 0 t) = some t.truncate := by
  rw [hread.read_write (by decide) ht]
  simp only [cut_zero ht.2.2, Instant.truncate, if_pos ht.2.2, Instant.ofSeconds]

theorem parse?_write_zero {t : Instant} (ht : t.Civil) : parse? (write 0 t) = some t.truncate :=
  readsParts_parse?.read_write_zero ht

/-- Times that are written in microseconds lose what is below one. -/
theorem ReadsParts.read_write_six {read : String → Option Instant} (hread : ReadsParts read)
    {t : Instant} (ht : t.Civil) : read (write 6 t) = some t.truncateMicros := by
  rw [hread.read_write (by decide) ht]
  rfl

/-- A date and a time of day in whole seconds as they are written. -/
def dateTime (date : Date) (hour minute second : Nat) : List Char :=
  writeYear date.year ++ '-' :: (padded 2 date.month ++ '-' :: (padded 2 date.day ++
    'T' :: (padded 2 hour ++ ':' :: (padded 2 minute ++ ':' :: (padded 2 second ++ ['Z'])))))

theorem parseRelaxed?_of_toList {text : String} {date : Date} {hour minute second : Nat}
    (hdate : date.isValid = true) (hhour : hour < 10 ^ 2) (hminute : minute < 10 ^ 2)
    (hsecond : second < 10 ^ 2) (htext : text.toList = dateTime date hour minute second) :
    parseRelaxed? text = assemble? date hour minute second 0 0 := by
  obtain ⟨hmonth, hday⟩ := Date.lt_of_isValid hdate
  exact parseRelaxed?_parts (looseYear?_writeYear date.year) hmonth hday hhour hminute hsecond
    (show fraction? ([] ++ ['Z']) = some (0, ['Z']) from rfl) htext

/-- The seconds of the day that a time falls on in UTC. -/
def inDay (t : Instant) : Nat :=
  (t.seconds - t.seconds.fdiv 86400 * 86400).toNat

/-- A leap second is written after the second that it belongs to. -/
def writtenSecond (t : Instant) : Nat :=
  if t.nanos < 1000000000 then inDay t % 60 else inDay t % 60 + 1

theorem toList_write_zero (t : Instant) :
    (write 0 t).toList = dateTime (Date.ofDays (t.seconds.fdiv 86400)) (inDay t / 3600)
      (inDay t / 60 % 60) (writtenSecond t) := by
  simp [write, dateTime, writtenSecond, inDay]

theorem inDay_lt (t : Instant) : inDay t < 86400 := by
  have hdays : t.seconds.fdiv 86400 = t.seconds / 86400 :=
    Int.fdiv_eq_ediv_of_nonneg _ (by decide)
  unfold inDay
  omega

/-- The parts that are written determine the text, so that a time with the same parts is written the
same. -/
theorem write_zero_congr {s t : Instant} (hday : s.seconds.fdiv 86400 = t.seconds.fdiv 86400)
    (hminute : inDay s / 60 = inDay t / 60) (hsecond : writtenSecond s = writtenSecond t) :
    write 0 s = write 0 t := by
  have hhour : inDay s / 3600 = inDay t / 3600 := by omega
  apply String.toList_injective
  rw [toList_write_zero, toList_write_zero, hday, hhour, hminute, hsecond]

/-- A time that is assembled from whole seconds in UTC. -/
theorem assemble?_eq_some {date : Date} {hour minute second : Nat} {t : Instant}
    (h : assemble? date hour minute second 0 0 = some t) :
    second ≤ 60 ∧
      t.seconds = date.toDays * 86400 +
        (hour * 3600 + minute * 60 + if second = 60 then 59 else second : Nat) ∧
      t.nanos = if second = 60 then 1000000000 else 0 := by
  unfold assemble? at h
  split at h
  · rename_i hparts
    refine ⟨hparts.2.2.2.2.2, ?_⟩
    by_cases hleap : second = 60
    · simp only [hleap, if_true, Nat.zero_add, Nat.reduceLT, dite_true, Option.some.injEq] at h
      subst h
      refine ⟨?_, by simp [hleap]⟩
      push_cast
      simp [hleap]
    · simp only [hleap, if_false, Nat.ofNat_pos, dite_true, Option.some.injEq] at h
      subst h
      refine ⟨?_, by simp [hleap]⟩
      push_cast
      simp [hleap]
  · cases h

/-- What is read of a time that was written is written the same: years of other than four digits
keep their sign, and what was written as the sixtieth second stays a leap second. -/
theorem write_of_parseRelaxed? {t read : Instant} (hread : parseRelaxed? (write 0 t) = some read) :
    write 0 read = write 0 t := by
  have hlt := inDay_lt t
  have hwritten : writtenSecond t < 10 ^ 2 := by
    unfold writtenSecond
    split <;> omega
  rw [parseRelaxed?_of_toList (Date.isValid_ofDays _) (by omega) (by omega) hwritten
    (toList_write_zero t)] at hread
  obtain ⟨hsecond, hseconds, hnanos⟩ := assemble?_eq_some hread
  rw [Date.toDays_ofDays] at hseconds
  -- Within its minute the time that is read is at most on the last second.
  generalize hshown : (if writtenSecond t = 60 then 59 else writtenSecond t) = shown at hseconds
  have hshownLt : shown < 60 := by split at hshown <;> omega
  have hday : read.seconds.fdiv 86400 = t.seconds.fdiv 86400 := by
    rw [hseconds, Int.fdiv_eq_ediv_of_nonneg _ (by decide)]
    omega
  have hinDay : inDay read = inDay t / 60 * 60 + shown := by
    rw [inDay, hday, hseconds]
    omega
  apply write_zero_congr hday
  · omega
  · rw [writtenSecond, hnanos, hinDay]
    split at hshown
    · rename_i hleap
      rw [if_pos hleap, if_neg (by decide), hleap]
      omega
    · rename_i hleap
      rw [if_neg hleap, if_pos (by decide)]
      omega

/-- What is lost when a time is written does not show in its text. -/
theorem write_truncate (t : Instant) : write 0 t.truncate = write 0 t := by
  by_cases hleap : t.nanos < 1000000000
  · rw [Instant.truncate, if_pos hleap]
    simp [write, Instant.ofSeconds, hleap]
  · rw [Instant.truncate, if_neg hleap]
    simp [write, hleap]

end Rfc3339

end Reconciler
