/-!
Instants and calendar dates.  An instant counts seconds from the start of 1970 in UTC and
nanoseconds within the second; nanoseconds from 10^9 on belong to a leap second that follows it.
Dates are those of the proleptic Gregorian calendar.
-/
namespace Reconciler

/-- A point in time. -/
structure Instant where
  seconds : Int
  nanos : Nat
  nanos_lt : nanos < 2000000000
deriving DecidableEq

namespace Instant

/-- An instant on a whole second. -/
def ofSeconds (seconds : Int) : Instant :=
  ⟨seconds, 0, by decide⟩

instance : Inhabited Instant := ⟨ofSeconds 0⟩

/-- Earlier or the same. -/
def le (a b : Instant) : Prop :=
  a.seconds < b.seconds ∨ (a.seconds = b.seconds ∧ a.nanos ≤ b.nanos)

instance : LE Instant := ⟨le⟩

instance (a b : Instant) : Decidable (a ≤ b) :=
  inferInstanceAs (Decidable (a.seconds < b.seconds ∨ (a.seconds = b.seconds ∧ a.nanos ≤ b.nanos)))

/-- Cut off to whole seconds; a leap second stays one. -/
def truncate (t : Instant) : Instant :=
  if t.nanos < 1000000000 then ofSeconds t.seconds else ⟨t.seconds, 1000000000, by decide⟩

theorem le_iff {a b : Instant} :
    a ≤ b ↔ a.seconds < b.seconds ∨ (a.seconds = b.seconds ∧ a.nanos ≤ b.nanos) := Iff.rfl

theorem le_refl (t : Instant) : t ≤ t :=
  .inr ⟨rfl, Nat.le_refl _⟩

theorem le_trans {a b c : Instant} (hab : a ≤ b) (hbc : b ≤ c) : a ≤ c := by
  rw [le_iff] at *
  omega

/-- Cutting off keeps the order of instants. -/
theorem truncate_le_truncate {a b : Instant} (h : a ≤ b) : a.truncate ≤ b.truncate := by
  rw [le_iff] at *
  unfold truncate ofSeconds
  split <;> split <;> simp only <;> omega

theorem truncate_le (t : Instant) : t.truncate ≤ t := by
  unfold truncate
  split
  · exact .inr ⟨rfl, Nat.zero_le _⟩
  · rename_i hleap
    exact .inr ⟨rfl, Nat.le_of_not_lt hleap⟩

/-- Cut off to whole microseconds. -/
def truncateMicros (t : Instant) : Instant :=
  ⟨t.seconds, t.nanos / 1000 * 1000, Nat.lt_of_le_of_lt (Nat.div_mul_le_self ..) t.nanos_lt⟩

/-- The instant so many whole seconds and nanoseconds after the start of a second. -/
def normalize (seconds nanos : Int) : Instant :=
  ⟨seconds + nanos.fdiv 1000000000, (nanos.fmod 1000000000).toNat, by
    have := Int.fmod_lt_of_pos nanos (by decide : (0 : Int) < 1000000000)
    omega⟩

/-- Move by some milliseconds.  A leap second is left by a step that reaches out of it. -/
def step (t : Instant) (millis : Int) : Instant :=
  let seconds := millis.tdiv 1000
  let nanos := millis.tmod 1000 * 1000000
  if t.nanos < 1000000000 then normalize (t.seconds + seconds) (t.nanos + nanos)
  else if 0 < seconds ∨ (0 < nanos ∧ 2000000000 ≤ t.nanos + nanos) then
    normalize (t.seconds + seconds) (t.nanos - 1000000000 + nanos)
  else if seconds < 0 then
    normalize (t.seconds + 1 + seconds) (t.nanos - 1000000000 + nanos)
  else
    let moved := (t.nanos + nanos).toNat
    if h : moved < 2000000000 then ⟨t.seconds, moved, h⟩ else t

end Instant

/-- A calendar date. -/
structure Date where
  year : Int
  month : Nat
  day : Nat
deriving DecidableEq, Repr

namespace Date

/-- Whether a year has a 29 February. -/
def isLeapYear (year : Int) : Bool :=
  year % 4 == 0 && (year % 100 != 0 || year % 400 == 0)

/-- How many days a month has. -/
def daysInMonth (year : Int) (month : Nat) : Nat :=
  match month with
  | 2 => if isLeapYear year then 29 else 28
  | 4 | 6 | 9 | 11 => 30
  | _ => 31

/-- Whether the month and the day exist. -/
def isValid (date : Date) : Bool :=
  1 ≤ date.month && date.month ≤ 12 && 1 ≤ date.day &&
    date.day ≤ daysInMonth date.year date.month

/-! Years are counted from March, so that the leap day is the last of its year, in eras of 400
years. -/

/-- Days of an era before one of its years. -/
def daysBeforeYear (year : Int) : Int :=
  year * 365 + year / 4 - year / 100

/-- The year of an era that has a day of the era. -/
def yearOfDay (day : Int) : Int :=
  (day - day / 1460 + day / 36524 - day / 146096) / 365

/-- Days of a year before one of its months. -/
def daysBeforeMonth (month : Int) : Int :=
  (153 * month + 2) / 5

/-- The month of a year that has a day of the year. -/
def monthOfDay (day : Int) : Int :=
  (5 * day + 2) / 153

/-- Days since the start of 1970. -/
def toDays (date : Date) : Int :=
  let year := if date.month ≤ 2 then date.year - 1 else date.year
  let era := year.fdiv 400
  let month : Int := if date.month ≤ 2 then date.month + 9 else date.month - 3
  era * 146097 + daysBeforeYear (year - era * 400) + daysBeforeMonth month + date.day - 1 - 719468

/-- The date so many days after the start of 1970. -/
def ofDays (days : Int) : Date :=
  let era := (days + 719468).fdiv 146097
  let dayOfEra := days + 719468 - era * 146097
  let year := yearOfDay dayOfEra
  let dayOfYear := dayOfEra - daysBeforeYear year
  let month := monthOfDay dayOfYear
  let day := dayOfYear - daysBeforeMonth month + 1
  if month < 10 then ⟨year + era * 400, (month + 3).toNat, day.toNat⟩
  else ⟨year + era * 400 + 1, (month - 9).toNat, day.toNat⟩

example : toDays ⟨1970, 1, 1⟩ = 0 := by decide
example : ofDays (toDays ⟨2024, 2, 29⟩) = ⟨2024, 2, 29⟩ := by decide
example : ofDays (toDays ⟨-1, 12, 31⟩) = ⟨-1, 12, 31⟩ := by decide

end Date

end Reconciler
