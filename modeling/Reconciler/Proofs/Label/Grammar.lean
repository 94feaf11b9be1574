import Mathlib
import Reconciler.Label.Parser
import Reconciler.Proofs.Text.Blank
/-!
The grammar of label selectors.  A selector is blank, or has requirements between commas; a
requirement is a clause with blanks around it.
-/
namespace Reconciler.Label

open Text (Blanks Solid)

/-- The text of a key. -/
def IsKey (chars : List Char) : Prop :=
  chars ≠ [] ∧ ∀ c ∈ chars, isKeyChar c = true

/-- The text of a value, which may be empty. -/
def IsValue (chars : List Char) : Prop :=
  ∀ c ∈ chars, isValueChar c = true

/-- Values between commas, with blanks around each. -/
inductive Values : List Char → List String → Prop where
  | one {before value after : List Char} : Blanks before → IsValue value → Blanks after →
      Values (before ++ value ++ after) [String.ofList value]
  | cons {before value after rest : List Char} {values : List String} :
      Blanks before → IsValue value → Blanks after → Values rest values →
      Values (before ++ value ++ after ++ ',' :: rest) (String.ofList value :: values)

/-- A requirement without blanks around it, and what it requires. -/
inductive Clause : List Char → Expression → Prop where
  | absent {blanks key : List Char} : Blanks blanks → IsKey key →
      Clause ('!' :: (blanks ++ key)) (.absent (String.ofList key))
  | equal {key before after value : List Char} :
      IsKey key → Blanks before → Blanks after → IsValue value →
      Clause (key ++ before ++ '=' :: (after ++ value))
        (.equal (String.ofList key) (String.ofList value))
  | equalTwice {key before after value : List Char} :
      IsKey key → Blanks before → Blanks after → IsValue value →
      Clause (key ++ before ++ '=' :: '=' :: (after ++ value))
        (.equal (String.ofList key) (String.ofList value))
  | notEqual {key before after value : List Char} :
      IsKey key → Blanks before → Blanks after → IsValue value →
      Clause (key ++ before ++ '!' :: '=' :: (after ++ value))
        (.notEqual (String.ofList key) (String.ofList value))
  | isIn {key before after inside : List Char} {values : List String} :
      IsKey key → Blanks before → before ≠ [] → Blanks after → Values inside values →
      Clause (key ++ before ++ "in".toList ++ after ++ '(' :: (inside ++ [')']))
        (.isIn (String.ofList key) (StringSet.ofList values))
  | notIn {key before after inside : List Char} {values : List String} :
      IsKey key → Blanks before → before ≠ [] → Blanks after → Values inside values →
      Clause (key ++ before ++ "notin".toList ++ after ++ '(' :: (inside ++ [')']))
        (.notIn (String.ofList key) (StringSet.ofList values))
  | present {key : List Char} : IsKey key → Clause key (.present (String.ofList key))

/-- A clause with blanks around it. -/
inductive Requirement : List Char → Expression → Prop where
  | intro {before clause after : List Char} {expression : Expression} :
      Blanks before → Clause clause expression → Blanks after →
      Requirement (before ++ clause ++ after) expression

/-- Further blanks around a requirement do not matter. -/
theorem Requirement.surround {before chars after : List Char} {expression : Expression}
    (hbefore : Blanks before) (h : Requirement chars expression) (hafter : Blanks after) :
    Requirement (before ++ chars ++ after) expression := by
  cases h with
  | @intro inner clause outer _ hinner hclause houter =>
      have hassoc : before ++ (inner ++ clause ++ outer) ++ after =
          (before ++ inner) ++ clause ++ (outer ++ after) := by simp
      rw [hassoc]
      exact .intro (hbefore.append hinner) hclause (houter.append hafter)

/-- Requirements between commas. -/
inductive Requirements : List Char → Selector → Prop where
  | one {chars : List Char} {expression : Expression} :
      Requirement chars expression → Requirements chars [expression]
  | cons {chars rest : List Char} {expression : Expression} {selector : Selector} :
      Requirement chars expression → Requirements rest selector →
      Requirements (chars ++ ',' :: rest) (expression :: selector)

/-- The text of a selector, and the selector. -/
inductive Selects : List Char → Selector → Prop where
  | blank {chars : List Char} : Blanks chars → Selects chars []
  | requirements {chars : List Char} {selector : Selector} :
      Requirements chars selector → Selects chars selector

/-! Keys, values and blanks have none of the marks that the grammar puts between them. -/

/-- The characters that mark the parts of a selector. -/
def marks : List Char :=
  ['!', '=', '(', ')', ',']

/-- No marks. -/
def Ordinary (chars : List Char) : Prop :=
  ∀ c ∈ chars, c ∉ marks

instance (chars : List Char) : Decidable (Ordinary chars) :=
  List.decidableBAll _ chars

theorem isBlank_eq_false_of_isKeyChar {c : Char} (h : isKeyChar c = true) :
    Text.isBlank c = false := by
  -- No blank is above the space and below the codes that follow those of ASCII.
  have hcode : 33 ≤ c.toNat ∧ c.toNat ≤ 126 := by
    simp only [isKeyChar, isAlphanumeric, Char.isAlphanum, Char.isAlpha, Char.isUpper,
      Char.isLower, Char.isDigit, Bool.or_eq_true, Bool.and_eq_true, decide_eq_true_eq,
      beq_iff_eq, UInt32.le_iff_toNat_le, ge_iff_le] at h
    have htoNat : c.val.toNat = c.toNat := rfl
    simp only [htoNat, UInt32.reduceToNat, Char.reduceVal] at h
    rcases h with (((hletter | hmark) | hmark) | hmark) | hmark
    · omega
    all_goals
      rw [hmark]
      decide
  simp [Text.isBlank]
  omega

theorem isKeyChar_of_isValueChar {c : Char} (h : isValueChar c = true) : isKeyChar c = true := by
  rw [isKeyChar, Bool.or_eq_true]
  exact .inl h

theorem IsKey.solid {chars : List Char} (h : IsKey chars) : Solid chars :=
  fun c hmem => isBlank_eq_false_of_isKeyChar (h.2 c hmem)

theorem IsValue.solid {chars : List Char} (h : IsValue chars) : Solid chars :=
  fun c hmem => isBlank_eq_false_of_isKeyChar (isKeyChar_of_isValueChar (h c hmem))

theorem ordinary_append_iff {front back : List Char} :
    Ordinary (front ++ back) ↔ Ordinary front ∧ Ordinary back :=
  List.forall_mem_append

/-- A class of characters without marks makes texts without marks. -/
theorem ordinary_of_forall {p : Char → Bool} {chars : List Char}
    (hmarks : marks.all (fun mark => !p mark) = true) (h : ∀ c ∈ chars, p c = true) :
    Ordinary chars := by
  intro c hmem hmark
  have hnot := List.all_eq_true.1 hmarks c hmark
  rw [h c hmem] at hnot
  cases hnot

theorem ordinary_of_blanks {blanks : List Char} (h : Blanks blanks) : Ordinary blanks :=
  ordinary_of_forall (by decide) h

theorem IsKey.ordinary {chars : List Char} (h : IsKey chars) : Ordinary chars :=
  ordinary_of_forall (by decide) h.2

theorem IsValue.ordinary {chars : List Char} (h : IsValue chars) : Ordinary chars :=
  ordinary_of_forall (by decide) h

theorem Ordinary.not_mem {chars : List Char} (h : Ordinary chars) {mark : Char}
    (hmark : mark ∈ marks) : mark ∉ chars :=
  fun hmem => h mark hmem hmark

theorem Ordinary.trimEnd {chars : List Char} (h : Ordinary chars) :
    Ordinary (Text.trimEnd chars) := by
  obtain ⟨blanks, -, hsplit⟩ := Text.trimEnd_split chars
  rw [hsplit, ordinary_append_iff] at h
  exact h.1

/-- Neither parentheses nor commas. -/
def Flat (chars : List Char) : Prop :=
  ∀ c ∈ chars, c ≠ '(' ∧ c ≠ ')' ∧ c ≠ ','

instance (chars : List Char) : Decidable (Flat chars) :=
  List.decidableBAll _ chars

theorem flat_append_iff {front back : List Char} :
    Flat (front ++ back) ↔ Flat front ∧ Flat back :=
  List.forall_mem_append

theorem flat_cons_iff {c : Char} {chars : List Char} :
    Flat (c :: chars) ↔ (c ≠ '(' ∧ c ≠ ')' ∧ c ≠ ',') ∧ Flat chars :=
  List.forall_mem_cons

theorem Ordinary.flat {chars : List Char} (h : Ordinary chars) : Flat chars := by
  intro c hmem
  refine ⟨?_, ?_, ?_⟩
  all_goals
    rintro rfl
    exact h _ hmem (by decide)

theorem flat_of_blanks {blanks : List Char} (h : Blanks blanks) : Flat blanks :=
  (ordinary_of_blanks h).flat

/-- Between parentheses there is no mark but the comma. -/
theorem Values.eq_comma {inside : List Char} {values : List String} (h : Values inside values) :
    ∀ c ∈ inside, c ∈ marks → c = ',' := by
  induction h with
  | one hbefore hvalue hafter =>
      intro c hmem hmark
      have hordinary := ordinary_append_iff.2 ⟨ordinary_append_iff.2
        ⟨ordinary_of_blanks hbefore, hvalue.ordinary⟩, ordinary_of_blanks hafter⟩
      exact absurd hmark (hordinary c hmem)
  | cons hbefore hvalue hafter _ ih =>
      intro c hmem hmark
      have hordinary := ordinary_append_iff.2 ⟨ordinary_append_iff.2
        ⟨ordinary_of_blanks hbefore, hvalue.ordinary⟩, ordinary_of_blanks hafter⟩
      rcases List.mem_append.1 hmem with hmem | hmem
      · exact absurd hmark (hordinary c hmem)
      · rcases List.mem_cons.1 hmem with hcomma | hmem
        · exact hcomma
        · exact ih c hmem hmark

/-- The only parentheses of a clause are those around its set of values. -/
theorem Clause.shape {clause : List Char} {expression : Expression} (h : Clause clause expression) :
    Flat clause ∨ ∃ front inside, clause = front ++ '(' :: (inside ++ [')']) ∧ Flat front ∧
      ∀ c ∈ inside, c ≠ '(' ∧ c ≠ ')' := by
  have hinside : ∀ {inside : List Char} {values : List String}, Values inside values →
      ∀ c ∈ inside, c ≠ '(' ∧ c ≠ ')' := by
    intro inside values hvalues c hmem
    constructor
    all_goals
      rintro rfl
      exact absurd (hvalues.eq_comma _ hmem (by decide)) (by decide)
  cases h with
  | absent hblanks hkey =>
      exact .inl (by simp [flat_cons_iff, flat_append_iff, flat_of_blanks hblanks,
        hkey.ordinary.flat])
  | equal hkey hbefore hafter hvalue | equalTwice hkey hbefore hafter hvalue
  | notEqual hkey hbefore hafter hvalue =>
      exact .inl (by simp [flat_cons_iff, flat_append_iff, flat_of_blanks hbefore,
        flat_of_blanks hafter, hkey.ordinary.flat, hvalue.ordinary.flat])
  | isIn hkey hbefore _ hafter hvalues | notIn hkey hbefore _ hafter hvalues =>
      refine .inr ⟨_, _, rfl, ?_, hinside hvalues⟩
      simp only [flat_append_iff, flat_of_blanks hbefore, flat_of_blanks hafter, hkey.ordinary.flat,
        true_and, and_true]
      decide
  | present hkey => exact .inl hkey.ordinary.flat

end Reconciler.Label
