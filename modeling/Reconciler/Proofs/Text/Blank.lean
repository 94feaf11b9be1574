import Mathlib.Data.List.Induction
import Mathlib.Data.List.TakeWhile
import Reconciler.Text.Blank
/-!
Trimming takes blanks off the two ends and nothing else.
-/
namespace Reconciler.Text

/-- Blank characters only. -/
def Blanks (chars : List Char) : Prop :=
  ∀ c ∈ chars, isBlank c = true

/-- No blank characters. -/
def Solid (chars : List Char) : Prop :=
  ∀ c ∈ chars, isBlank c = false

instance (chars : List Char) : Decidable (Blanks chars) :=
  List.decidableBAll _ chars

instance (chars : List Char) : Decidable (Solid chars) :=
  List.decidableBAll _ chars

variable {blanks before after chars front : List Char} {c : Char}

theorem blanks_nil : Blanks [] :=
  fun _ hmem => absurd hmem List.not_mem_nil

theorem Blanks.append (hbefore : Blanks before) (hafter : Blanks after) :
    Blanks (before ++ after) := by
  intro c hmem
  rcases List.mem_append.1 hmem with hmem | hmem
  · exact hbefore c hmem
  · exact hafter c hmem

theorem trimStart_append_of_blanks (h : Blanks blanks) (chars : List Char) :
    trimStart (blanks ++ chars) = trimStart chars :=
  List.dropWhile_append_of_pos h

theorem trimEnd_append_of_blanks (h : Blanks blanks) (chars : List Char) :
    trimEnd (chars ++ blanks) = trimEnd chars := by
  have hreverse : ∀ c ∈ blanks.reverse, isBlank c = true :=
    fun c hmem => h c (List.mem_reverse.1 hmem)
  rw [trimEnd, trimEnd, List.reverse_append, List.dropWhile_append_of_pos hreverse]

theorem trimStart_cons (h : isBlank c = false) (chars : List Char) :
    trimStart (c :: chars) = c :: chars := by
  simp [trimStart, h]

theorem trimEnd_concat (h : isBlank c = false) (chars : List Char) :
    trimEnd (chars ++ [c]) = chars ++ [c] := by
  simp [trimEnd, h]

/-- What stands in front of a character that is not blank is not reached from the end. -/
theorem trimEnd_append_cons (h : isBlank c = false) (front chars : List Char) :
    trimEnd (front ++ c :: chars) = front ++ c :: trimEnd chars := by
  induction chars using List.reverseRecOn with
  | nil => exact trimEnd_concat h front
  | append_singleton chars last ih =>
      have hassoc : front ++ c :: (chars ++ [last]) = front ++ c :: chars ++ [last] := by simp
      cases hlast : isBlank last with
      | true =>
          have hblanks : Blanks [last] := by simpa [Blanks] using hlast
          rw [hassoc, trimEnd_append_of_blanks hblanks, trimEnd_append_of_blanks hblanks, ih]
      | false =>
          rw [hassoc, trimEnd_concat hlast, trimEnd_concat hlast]
          simp

theorem trimStart_split (chars : List Char) :
    ∃ blanks, Blanks blanks ∧ chars = blanks ++ trimStart chars := by
  refine ⟨chars.takeWhile isBlank, ?_, List.takeWhile_append_dropWhile.symm⟩
  exact fun _ hmem => List.mem_takeWhile_imp hmem

theorem trimEnd_split (chars : List Char) :
    ∃ blanks, Blanks blanks ∧ chars = trimEnd chars ++ blanks := by
  obtain ⟨blanks, hblanks, hsplit⟩ := trimStart_split chars.reverse
  refine ⟨blanks.reverse, fun c hmem => hblanks c (List.mem_reverse.1 hmem), ?_⟩
  have hreverse := congrArg List.reverse hsplit
  rwa [List.reverse_reverse, List.reverse_append] at hreverse

/-- Trimming takes blanks off both ends. -/
theorem trim_split (chars : List Char) :
    ∃ before after, Blanks before ∧ Blanks after ∧ chars = before ++ trim chars ++ after := by
  obtain ⟨before, hbefore, hstart⟩ := trimStart_split chars
  obtain ⟨after, hafter, hend⟩ := trimEnd_split (trimStart chars)
  refine ⟨before, after, hbefore, hafter, ?_⟩
  rw [List.append_assoc, trim, ← hend]
  exact hstart

theorem trim_of_blanks (h : Blanks blanks) : trim blanks = [] := by
  have hstart := trimStart_append_of_blanks h []
  rw [List.append_nil] at hstart
  rw [trim, hstart]
  rfl

theorem trim_eq_nil_iff : trim chars = [] ↔ Blanks chars := by
  constructor
  · intro htrim
    obtain ⟨before, after, hbefore, hafter, hsplit⟩ := trim_split chars
    rw [htrim, List.append_nil] at hsplit
    rw [hsplit]
    exact hbefore.append hafter
  · exact trim_of_blanks

/-- Blanks around a text do not matter. -/
theorem trim_append (hbefore : Blanks before) (hafter : Blanks after) (chars : List Char) :
    trim (before ++ chars ++ after) = trim chars := by
  obtain ⟨blanks, hblanks, hsplit⟩ := trimStart_split chars
  cases hstart : trimStart chars with
  | nil =>
      rw [hstart, List.append_nil] at hsplit
      rw [hsplit, trim_of_blanks hblanks]
      exact trim_of_blanks ((hbefore.append hblanks).append hafter)
  | cons c rest =>
      have hc : isBlank c = false := by
        have hhead := List.head?_dropWhile_not isBlank chars
        rw [show chars.dropWhile isBlank = c :: rest from hstart] at hhead
        simpa using hhead
      rw [hstart] at hsplit
      have hwhole : before ++ chars ++ after = (before ++ blanks) ++ c :: (rest ++ after) := by
        rw [hsplit]
        simp
      rw [trim, trim, hstart, hwhole, trimStart_append_of_blanks (hbefore.append hblanks),
        trimStart_cons hc, ← List.cons_append, trimEnd_append_of_blanks hafter]

theorem trim_trimEnd (chars : List Char) : trim (trimEnd chars) = trim chars := by
  obtain ⟨after, hafter, hsplit⟩ := trimEnd_split chars
  have htrim := trim_append blanks_nil hafter (trimEnd chars)
  rw [List.nil_append, ← hsplit] at htrim
  exact htrim.symm

theorem trim_of_solid (h : Solid chars) : trim chars = chars := by
  cases chars with
  | nil => rfl
  | cons c rest =>
      rw [trim, trimStart_cons (h c List.mem_cons_self)]
      induction rest using List.reverseRecOn with
      | nil => exact trimEnd_concat (h c List.mem_cons_self) []
      | append_singleton rest last _ =>
          exact trimEnd_concat (h last (by simp)) (c :: rest)

/-- What stands between blanks is recovered if it has none itself. -/
theorem trim_surrounded (hbefore : Blanks before) (hchars : Solid chars) (hafter : Blanks after) :
    trim (before ++ chars ++ after) = chars := by
  rw [trim_append hbefore hafter, trim_of_solid hchars]

end Reconciler.Text
