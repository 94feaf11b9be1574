import Mathlib
import Reconciler.Proofs.Label.Parser
/-!
Selectors as text.  The text of a selector is in the grammar if its keys and values can be written,
and the grammar has no other selectors; so what was read can be written and read again.  Two
selectors that require something are put together by a comma.
-/
namespace Reconciler.Label

/-- A requirement that can be written: its key and its values have the characters of keys and of
values, and a set of values is not empty. -/
def Expression.Valid : Expression → Prop
  | .equal key value | .notEqual key value => IsKey key.toList ∧ IsValue value.toList
  | .isIn key values | .notIn key values =>
    IsKey key.toList ∧ values.toList ≠ [] ∧ ∀ value ∈ values.toList, IsValue value.toList
  | .present key | .absent key => IsKey key.toList

/-! What can be written is in the grammar. -/

theorem values_intercalate {values : List String} (hne : values ≠ [])
    (hvalues : ∀ value ∈ values, IsValue value.toList) :
    Values (",".intercalate values).toList values := by
  induction values with
  | nil => exact absurd rfl hne
  | cons value rest ih =>
      rw [List.forall_mem_cons] at hvalues
      obtain ⟨hvalue, hrest⟩ := hvalues
      cases rest with
      | nil =>
          have hone := Values.one Text.blanks_nil hvalue Text.blanks_nil
          simpa using hone
      | cons next rest =>
          have htail := ih (List.cons_ne_nil next rest) hrest
          have hcons := Values.cons Text.blanks_nil hvalue Text.blanks_nil htail
          rw [String.intercalate_cons_cons]
          simpa using hcons

/-- The text of a requirement is a clause that requires just that. -/
theorem Expression.Valid.clause {expression : Expression} (h : expression.Valid) :
    Clause expression.text.toList expression := by
  have hspace : Text.Blanks [' '] := by decide
  cases expression with
  | equal key value =>
      obtain ⟨hkey, hvalue⟩ := h
      have hclause := Clause.equal hkey Text.blanks_nil Text.blanks_nil hvalue
      simpa [text] using hclause
  | notEqual key value =>
      obtain ⟨hkey, hvalue⟩ := h
      have hclause := Clause.notEqual hkey Text.blanks_nil Text.blanks_nil hvalue
      simpa [text] using hclause
  | isIn key values =>
      obtain ⟨hkey, hne, hvalues⟩ := h
      have hinside := values_intercalate hne hvalues
      have hclause := Clause.isIn hkey hspace (by decide) hspace hinside
      rw [StringSet.ofList_toList] at hclause
      simpa [text] using hclause
  | notIn key values =>
      obtain ⟨hkey, hne, hvalues⟩ := h
      have hinside := values_intercalate hne hvalues
      have hclause := Clause.notIn hkey hspace (by decide) hspace hinside
      rw [StringSet.ofList_toList] at hclause
      simpa [text] using hclause
  | present key =>
      have hclause := Clause.present h
      simpa [text] using hclause
  | absent key =>
      have hclause := Clause.absent Text.blanks_nil h
      simpa [text] using hclause

theorem Clause.requirement {clause : List Char} {expression : Expression}
    (h : Clause clause expression) : Requirement clause expression := by
  have hrequirement := Requirement.intro Text.blanks_nil h Text.blanks_nil
  simpa using hrequirement

theorem requirements_text {selector : Selector} (hne : selector ≠ [])
    (hvalid : ∀ expression ∈ selector, expression.Valid) :
    Requirements selector.text.toList selector := by
  induction selector with
  | nil => exact absurd rfl hne
  | cons expression rest ih =>
      rw [List.forall_mem_cons] at hvalid
      obtain ⟨hfirst, hrest⟩ := hvalid
      cases rest with
      | nil =>
          have hone := Requirements.one hfirst.clause.requirement
          simpa [Selector.text] using hone
      | cons next rest =>
          have htail := ih (List.cons_ne_nil next rest) hrest
          have hcons := Requirements.cons hfirst.clause.requirement htail
          rw [Selector.text, List.map_cons, List.map_cons, String.intercalate_cons_cons]
          simpa [Selector.text] using hcons

theorem selects_text {selector : Selector} (hvalid : ∀ expression ∈ selector, expression.Valid) :
    Selects selector.text.toList selector := by
  by_cases hempty : selector = []
  · subst hempty
    exact .blank Text.blanks_nil
  · exact .requirements (requirements_text hempty hvalid)

/-! What is in the grammar can be written. -/

theorem Values.valid {inside : List Char} {values : List String} (h : Values inside values) :
    values ≠ [] ∧ ∀ value ∈ values, IsValue value.toList := by
  induction h with
  | one _ hvalue _ => simpa using hvalue
  | cons _ hvalue _ _ ih => simpa using ⟨hvalue, ih.2⟩

/-- The members of a set are the values that stand between its parentheses. -/
theorem Values.valid_toList {inside : List Char} {values : List String} (h : Values inside values) :
    (StringSet.ofList values).toList ≠ [] ∧
      ∀ value ∈ (StringSet.ofList values).toList, IsValue value.toList := by
  obtain ⟨hne, hvalues⟩ := h.valid
  constructor
  · intro hempty
    obtain ⟨value, rest, rfl⟩ := List.exists_cons_of_ne_nil hne
    have hmem : value ∈ (StringSet.ofList (value :: rest)).toList :=
      StringSet.mem_toList_ofList_iff.2 List.mem_cons_self
    rw [hempty] at hmem
    cases hmem
  · intro value hmem
    exact hvalues value (StringSet.mem_toList_ofList_iff.1 hmem)

theorem Clause.valid {clause : List Char} {expression : Expression} (h : Clause clause expression) :
    expression.Valid := by
  cases h with
  | absent _ hkey | present hkey => simpa [Expression.Valid] using hkey
  | equal hkey _ _ hvalue | equalTwice hkey _ _ hvalue | notEqual hkey _ _ hvalue =>
      simpa [Expression.Valid] using ⟨hkey, hvalue⟩
  | isIn hkey _ _ _ hvalues | notIn hkey _ _ _ hvalues =>
      simpa [Expression.Valid] using ⟨hkey, hvalues.valid_toList⟩

theorem Requirements.valid {chars : List Char} {selector : Selector}
    (h : Requirements chars selector) : ∀ expression ∈ selector, expression.Valid := by
  induction h with
  | one hrequirement =>
      obtain ⟨-, hclause, -⟩ := hrequirement
      simpa using hclause.valid
  | cons hrequirement _ ih =>
      obtain ⟨-, hclause, -⟩ := hrequirement
      exact List.forall_mem_cons.2 ⟨hclause.valid, ih⟩

theorem Selects.valid {chars : List Char} {selector : Selector} (h : Selects chars selector) :
    ∀ expression ∈ selector, expression.Valid := by
  cases h with
  | blank _ => simp
  | requirements hrequirements => exact hrequirements.valid

/-! Selectors one after another. -/

theorem Requirements.append {front back : List Char} {left right : Selector}
    (hleft : Requirements front left) (hright : Requirements back right) :
    Requirements (front ++ ',' :: back) (left ++ right) := by
  induction hleft with
  | one hrequirement => exact .cons hrequirement hright
  | cons hrequirement _ ih =>
      rw [List.append_assoc, List.cons_append, List.cons_append]
      exact .cons hrequirement ih

theorem Selects.requirements_of_not_blanks {chars : List Char} {selector : Selector}
    (h : Selects chars selector) (hblanks : ¬ Text.Blanks chars) : Requirements chars selector := by
  cases h with
  | blank hblank => exact absurd hblank hblanks
  | requirements hrequirements => exact hrequirements

theorem Selector.matches_append_iff {left right : Selector} {labels : StringMap} :
    Selector.matches (left ++ right) labels = true ↔
      left.matches labels = true ∧ right.matches labels = true := by
  simp [Selector.matches]

theorem parse_eq_ok_iff {text : String} {selector : Selector} :
    parse text = .ok selector ↔ Selects text.toList selector := by
  rw [← parseChars_eq_ok_iff, parse]
  cases parseChars text.toList <;> simp [Except.mapError]

/-- The text of a selector is read as that selector exactly if all its requirements can be written,
which those of every text that is a selector can.  Between two texts that are not blank a comma
stands for the conjunction. -/
theorem text_parses :
    (∀ selector : Selector,
      parse selector.text = .ok selector ↔ ∀ expression ∈ selector, expression.Valid) ∧
    (∀ (text : String) (selector : Selector), parse text = .ok selector →
      parse selector.text = .ok selector) ∧
    ∀ (first second : String) (left right : Selector),
      ¬ Text.Blanks first.toList → ¬ Text.Blanks second.toList →
      parse first = .ok left → parse second = .ok right →
      parse (first ++ "," ++ second) = .ok (left ++ right) ∧
        ∀ labels, Selector.matches (left ++ right) labels = true ↔
          left.matches labels = true ∧ right.matches labels = true := by
  refine ⟨?_, ?_, ?_⟩
  · intro selector
    constructor
    · intro hparse
      exact (parse_eq_ok_iff.1 hparse).valid
    · intro hvalid
      exact parse_eq_ok_iff.2 (selects_text hvalid)
  · intro text selector hparse
    exact parse_eq_ok_iff.2 (selects_text (parse_eq_ok_iff.1 hparse).valid)
  · intro first second left right hfirst hsecond hleft hright
    have hfront := (parse_eq_ok_iff.1 hleft).requirements_of_not_blanks hfirst
    have hback := (parse_eq_ok_iff.1 hright).requirements_of_not_blanks hsecond
    have hboth := hfront.append hback
    refine ⟨parse_eq_ok_iff.2 (.requirements ?_), fun labels => Selector.matches_append_iff⟩
    simpa using hboth

/-- A selector with an empty value, one that is written as it is not usual, and both with a comma
between them. -/
theorem text_parses_tier :
    parse "tier in (,web)" = .ok [.isIn "tier" (.ofList ["", "web"])] ∧
      parse "app==shop , !old" = .ok [.equal "app" "shop", .absent "old"] ∧
      parse "app=shop,!old" = .ok [.equal "app" "shop", .absent "old"] ∧
      parse "tier in (,web),app==shop , !old" =
        .ok [.isIn "tier" (.ofList ["", "web"]), .equal "app" "shop", .absent "old"] := by
  have htier : parse "tier in (,web)" = .ok [.isIn "tier" (.ofList ["", "web"])] := by
    decide +kernel
  have happ : parse "app==shop , !old" = .ok [.equal "app" "shop", .absent "old"] := by
    decide +kernel
  obtain ⟨-, hagain, hcomma⟩ := text_parses
  refine ⟨htier, happ, hagain _ _ happ, ?_⟩
  exact (hcomma _ _ _ _ (by decide) (by decide) htier happ).1

end Reconciler.Label
