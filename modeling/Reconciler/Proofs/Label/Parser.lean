import Mathlib
import Reconciler.Attempt
import Reconciler.Proofs.Label.Grammar
/-!
The parser of label selectors accepts the grammar and nothing else, and returns what the grammar
says a selector requires.
-/
namespace Reconciler.Label

open Text (Blanks Solid)

/-! Keys and values. -/

theorem key?_eq_ok_iff {chars : List Char} {key : String} :
    key? chars = .ok key ↔ IsKey chars ∧ String.ofList chars = key := by
  unfold key? IsKey
  by_cases hkey : chars ≠ [] ∧ chars.all isKeyChar = true
  · rw [if_pos hkey]
    simp_all
  · rw [if_neg hkey]
    refine iff_of_false (by simp) ?_
    rintro ⟨⟨hne, hall⟩, -⟩
    exact hkey ⟨hne, List.all_eq_true.2 hall⟩

theorem value?_eq_ok_iff {chars : List Char} {value : String} :
    value? chars = .ok value ↔ IsValue chars ∧ String.ofList chars = value := by
  unfold value? IsValue
  by_cases hvalue : chars.all isValueChar = true
  · rw [if_pos hvalue]
    simp_all
  · rw [if_neg hvalue]
    refine iff_of_false (by simp) ?_
    rintro ⟨hall, -⟩
    exact hvalue (List.all_eq_true.2 hall)

theorem key?_trim {before key after : List Char} (hbefore : Blanks before) (hkey : IsKey key)
    (hafter : Blanks after) :
    key? (Text.trim (before ++ key ++ after)) = .ok (String.ofList key) := by
  rw [Text.trim_surrounded hbefore hkey.solid hafter]
  exact key?_eq_ok_iff.2 ⟨hkey, rfl⟩

theorem value?_trim {before value after : List Char} (hbefore : Blanks before)
    (hvalue : IsValue value) (hafter : Blanks after) :
    value? (Text.trim (before ++ value ++ after)) = .ok (String.ofList value) := by
  rw [Text.trim_surrounded hbefore hvalue.solid hafter]
  exact value?_eq_ok_iff.2 ⟨hvalue, rfl⟩

theorem exists_of_key?_trim {chars : List Char} {key : String}
    (h : key? (Text.trim chars) = .ok key) :
    ∃ before text after, Blanks before ∧ IsKey text ∧ Blanks after ∧
      chars = before ++ text ++ after ∧ String.ofList text = key := by
  obtain ⟨before, after, hbefore, hafter, hsplit⟩ := Text.trim_split chars
  obtain ⟨hkey, rfl⟩ := key?_eq_ok_iff.1 h
  exact ⟨before, Text.trim chars, after, hbefore, hkey, hafter, hsplit, rfl⟩

theorem exists_of_value?_trim {chars : List Char} {value : String}
    (h : value? (Text.trim chars) = .ok value) :
    ∃ before text after, Blanks before ∧ IsValue text ∧ Blanks after ∧
      chars = before ++ text ++ after ∧ String.ofList text = value := by
  obtain ⟨before, after, hbefore, hafter, hsplit⟩ := Text.trim_split chars
  obtain ⟨hvalue, rfl⟩ := value?_eq_ok_iff.1 h
  exact ⟨before, Text.trim chars, after, hbefore, hvalue, hafter, hsplit, rfl⟩

/-! Splitting around an operator. -/

theorem splitAround?_eq_some {word chars before after : List Char}
    (h : splitAround? word chars = some (before, after)) : chars = before ++ word ++ after := by
  induction chars generalizing before with
  | nil =>
      unfold splitAround? at h
      split at h
      · rename_i hempty
        cases h
        simpa using hempty
      · cases h
  | cons c rest ih =>
      unfold splitAround? at h
      split at h
      · rename_i hprefix
        cases h
        obtain ⟨tail, htail⟩ := List.isPrefixOf_iff_prefix.1 hprefix
        rw [← htail, List.drop_left]
        simp
      · obtain ⟨⟨front, back⟩, htail, hsides⟩ := Option.map_eq_some_iff.1 h
        cases hsides
        rw [ih htail]
        simp

theorem splitAround?_eq_none {word chars : List Char} (h : ¬ word <:+: chars) :
    splitAround? word chars = none := by
  induction chars with
  | nil =>
      unfold splitAround?
      rw [if_neg]
      intro hempty
      rw [List.isEmpty_iff.1 hempty] at h
      exact h (List.nil_infix)
  | cons c rest ih =>
      unfold splitAround?
      rw [if_neg, ih, Option.map_none]
      · exact fun hwithin => h (hwithin.trans (List.suffix_cons c rest).isInfix)
      · exact fun hprefix => h (List.isPrefixOf_iff_prefix.1 hprefix).isInfix

/-- A word is found where its first character first stands. -/
theorem splitAround?_append {mark : Char} {word before : List Char} (h : mark ∉ before)
    (after : List Char) :
    splitAround? (mark :: word) (before ++ mark :: (word ++ after)) = some (before, after) := by
  induction before with
  | nil =>
      have hprefix : (mark :: word).isPrefixOf (mark :: (word ++ after)) = true :=
        List.isPrefixOf_iff_prefix.2 ⟨after, rfl⟩
      rw [List.nil_append, splitAround?, if_pos hprefix]
      simp
  | cons c before ih =>
      rw [List.mem_cons, not_or] at h
      obtain ⟨hc, hrest⟩ := h
      have hprefix :
          ¬ (mark :: word).isPrefixOf (c :: (before ++ mark :: (word ++ after))) = true := by
        simp [List.isPrefixOf, hc]
      rw [List.cons_append, splitAround?, if_neg hprefix, ih hrest]
      rfl

theorem splitAround?_eq_none_of_not_mem {mark : Char} {chars : List Char} (h : mark ∉ chars)
    (word : List Char) : splitAround? (mark :: word) chars = none :=
  splitAround?_eq_none fun hwithin => h (hwithin.subset List.mem_cons_self)

/-- One mark does not make a pair of them. -/
theorem splitAround?_twice_eq_none {mark : Char} {before after : List Char}
    (hbefore : mark ∉ before) (hafter : mark ∉ after) :
    splitAround? [mark, mark] (before ++ mark :: after) = none := by
  apply splitAround?_eq_none
  intro hwithin
  have hcount := hwithin.sublist.count_le mark
  simp [List.count_eq_zero_of_not_mem hbefore, List.count_eq_zero_of_not_mem hafter] at hcount

/-! The values of a set. -/

theorem splitCommas_of_not_mem {chars : List Char} (h : ',' ∉ chars) :
    splitCommas chars = [chars] := by
  induction chars with
  | nil => rfl
  | cons c rest ih =>
      rw [List.mem_cons, not_or] at h
      obtain ⟨hc, hrest⟩ := h
      rw [splitCommas, ih hrest]
      exact fun hsame => hc hsame.symm

theorem splitCommas_append {chars : List Char} (h : ',' ∉ chars) (rest : List Char) :
    splitCommas (chars ++ ',' :: rest) = chars :: splitCommas rest := by
  induction chars with
  | nil => rfl
  | cons c chars ih =>
      rw [List.mem_cons, not_or] at h
      obtain ⟨hc, hchars⟩ := h
      rw [List.cons_append, splitCommas, ih hchars]
      exact fun hsame => hc hsame.symm

theorem splitCommas_cases (chars : List Char) :
    splitCommas chars = [chars] ∨
      ∃ first rest, chars = first ++ ',' :: rest ∧
        splitCommas chars = first :: splitCommas rest := by
  by_cases hmem : ',' ∈ chars
  · obtain ⟨first, rest, rfl, hfirst⟩ := List.eq_append_cons_of_mem hmem
    exact .inr ⟨first, rest, rfl, splitCommas_append hfirst rest⟩
  · exact .inl (splitCommas_of_not_mem hmem)

theorem comma_not_mem {before value after : List Char} (hbefore : Blanks before)
    (hvalue : IsValue value) (hafter : Blanks after) : ',' ∉ before ++ value ++ after := by
  have hordinary : Ordinary (before ++ value ++ after) :=
    ordinary_append_iff.2 ⟨ordinary_append_iff.2 ⟨ordinary_of_blanks hbefore, hvalue.ordinary⟩,
      ordinary_of_blanks hafter⟩
  exact fun hmem => hordinary ',' hmem (by decide)

/-- Values are read between commas as the grammar has them. -/
theorem mapM_value?_eq_ok_iff {inside : List Char} {values : List String} :
    (splitCommas inside).mapM (fun value => value? (Text.trim value)) = .ok values ↔
      Values inside values := by
  constructor
  · intro hread
    induction values generalizing inside with
    | nil =>
        rcases splitCommas_cases inside with hsplit | ⟨first, rest, -, hsplit⟩
        all_goals
          rw [hsplit, Except.mapM_cons_eq_ok_iff] at hread
          obtain ⟨_, _, -, -, hnil⟩ := hread
          cases hnil
    | cons value others ih =>
        rcases splitCommas_cases inside with hsplit | ⟨first, rest, rfl, hsplit⟩
        · rw [hsplit, Except.mapM_cons_eq_ok_iff] at hread
          obtain ⟨_, _, hvalue, hothers, hcons⟩ := hread
          cases hothers
          cases hcons
          obtain ⟨before, text, after, hbefore, htext, hafter, rfl, rfl⟩ :=
            exists_of_value?_trim hvalue
          exact .one hbefore htext hafter
        · rw [hsplit, Except.mapM_cons_eq_ok_iff] at hread
          obtain ⟨_, _, hvalue, hothers, hcons⟩ := hread
          cases hcons
          obtain ⟨before, text, after, hbefore, htext, hafter, rfl, rfl⟩ :=
            exists_of_value?_trim hvalue
          exact .cons hbefore htext hafter (ih hothers)
  · intro h
    induction h with
    | one hbefore hvalue hafter =>
        rw [splitCommas_of_not_mem (comma_not_mem hbefore hvalue hafter)]
        exact Except.mapM_cons_eq_ok_iff.2 ⟨_, [], value?_trim hbefore hvalue hafter, rfl, rfl⟩
    | cons hbefore hvalue hafter _ ih =>
        rw [splitCommas_append (comma_not_mem hbefore hvalue hafter)]
        exact Except.mapM_cons_eq_ok_iff.2 ⟨_, _, value?_trim hbefore hvalue hafter, ih, rfl⟩

theorem insideParentheses?_eq_some_iff {chars inside : List Char} :
    insideParentheses? chars = some inside ↔ chars = '(' :: (inside ++ [')']) := by
  constructor
  · intro h
    unfold insideParentheses? at h
    split at h
    · rename_i rest
      split at h
      · rename_i hlast
        cases h
        obtain ⟨front, rfl⟩ := List.getLast?_eq_some_iff.1 hlast
        rw [List.dropLast_concat]
      · cases h
    · cases h
  · rintro rfl
    simp [insideParentheses?]

/-- A set is read if its key and its values are. -/
theorem parseSet_eq_ok_iff {key rest : List Char} {result : String × StringSet} :
    parseSet key rest = .ok result ↔
      ∃ inside values, Text.trim rest = '(' :: (inside ++ [')']) ∧ Values inside values ∧
        key? (Text.trim key) = .ok result.1 ∧ result.2 = StringSet.ofList values := by
  unfold parseSet
  cases hinside : insideParentheses? (Text.trim rest) with
  | none =>
      refine iff_of_false (by simp) ?_
      rintro ⟨inside, values, hrest, -⟩
      rw [insideParentheses?_eq_some_iff.2 hrest] at hinside
      cases hinside
  | some inside =>
      have hrest := insideParentheses?_eq_some_iff.1 hinside
      rw [hrest]
      simp only [Except.bind_eq_ok_iff, mapM_value?_eq_ok_iff, pure, Except.pure, Except.ok.injEq]
      constructor
      · rintro ⟨values, hvalues, found, hkey, rfl⟩
        exact ⟨inside, values, rfl, hvalues, hkey, rfl⟩
      · rintro ⟨other, values, hsame, hvalues, hkey, hset⟩
        have hother : inside = other := by simpa using hsame
        subst hother
        exact ⟨values, hvalues, result.1, hkey, by rw [← hset]⟩

/-! Requirements that begin with a key. -/

theorem parsePair_eq_ok_iff {sides : List Char × List Char} {result : String × String} :
    parsePair sides = .ok result ↔
      key? (Text.trim sides.1) = .ok result.1 ∧ value? (Text.trim sides.2) = .ok result.2 := by
  unfold parsePair
  simp only [Except.bind_eq_ok_iff, pure, Except.pure, Except.ok.injEq]
  constructor
  · rintro ⟨key, hkey, value, hvalue, rfl⟩
    exact ⟨hkey, hvalue⟩
  · rintro ⟨hkey, hvalue⟩
    exact ⟨result.1, hkey, result.2, hvalue, rfl⟩

theorem parseComparison_notEqual {front : List Char} (hfront : Ordinary front) (back : List Char) :
    parseComparison (front ++ '!' :: '=' :: back) =
      (parsePair (front, back)).map fun (key, value) => .notEqual key value := by
  have hsplit : splitAround? ['!', '='] (front ++ '!' :: '=' :: back) = some (front, back) :=
    splitAround?_append (hfront.not_mem (by decide)) back
  rw [parseComparison, hsplit]

theorem parseComparison_equalTwice {front back : List Char} (hfront : Ordinary front)
    (hback : Ordinary back) :
    parseComparison (front ++ '=' :: '=' :: back) =
      (parsePair (front, back)).map fun (key, value) => .equal key value := by
  have hnone : splitAround? ['!', '='] (front ++ '=' :: '=' :: back) = none := by
    apply splitAround?_eq_none_of_not_mem
    simp [hfront.not_mem (show '!' ∈ marks by decide), hback.not_mem (show '!' ∈ marks by decide)]
  have hsplit : splitAround? ['=', '='] (front ++ '=' :: '=' :: back) = some (front, back) :=
    splitAround?_append (hfront.not_mem (by decide)) back
  rw [parseComparison, hnone, hsplit]
  rfl

theorem parseComparison_equal {front back : List Char} (hfront : Ordinary front)
    (hback : Ordinary back) :
    parseComparison (front ++ '=' :: back) =
      (parsePair (front, back)).map fun (key, value) => .equal key value := by
  have hnone : splitAround? ['!', '='] (front ++ '=' :: back) = none := by
    apply splitAround?_eq_none_of_not_mem
    simp [hfront.not_mem (show '!' ∈ marks by decide), hback.not_mem (show '!' ∈ marks by decide)]
  have htwice : splitAround? ['=', '='] (front ++ '=' :: back) = none :=
    splitAround?_twice_eq_none (hfront.not_mem (by decide)) (hback.not_mem (by decide))
  have hsplit : splitAround? ['='] (front ++ '=' :: back) = some (front, back) :=
    splitAround?_append (hfront.not_mem (by decide)) back
  rw [parseComparison, hnone, htwice, hsplit]
  rfl

theorem parseComparison_word {term : List Char} (hnot : '!' ∉ term) (hequal : '=' ∉ term) :
    parseComparison term = parseWord term := by
  rw [parseComparison, splitAround?_eq_none_of_not_mem hnot, splitAround?_eq_none_of_not_mem hequal,
    splitAround?_eq_none_of_not_mem hequal]
  rfl

/-- What begins with a key is read as a comparison. -/
theorem parseExpression_of_isKey {key : List Char} (hkey : IsKey key) (rest : List Char) :
    parseExpression (key ++ rest) = parseComparison (key ++ rest) := by
  obtain ⟨hne, hchars⟩ := hkey
  cases key with
  | nil => exact absurd rfl hne
  | cons c key =>
      have hc : c ≠ '!' := by
        rintro rfl
        exact absurd (hchars '!' List.mem_cons_self) (by decide)
      rw [List.cons_append, parseExpression]
      exact fun other hsame => hc (List.cons.inj hsame).1

/-! Requirements without comparison. -/

theorem parseWord_of_solid {term : List Char} (h : Solid term) :
    parseWord term = (key? term).map .present := by
  have hall : ∀ c ∈ term, (!Text.isBlank c) = true := fun c hmem => by simp [h c hmem]
  rw [parseWord, List.takeWhile_eq_self_iff.2 hall, List.dropWhile_eq_nil_iff.2 hall]

theorem parseWord_append {key : List Char} (hkey : Solid key) {c : Char}
    (hc : Text.isBlank c = true) (rest : List Char) :
    parseWord (key ++ c :: rest) =
      parseOperator (key ++ c :: rest) key (Text.trimStart rest) := by
  have hall : ∀ c ∈ key, (!Text.isBlank c) = true := fun c hmem => by simp [hkey c hmem]
  have htake : (key ++ c :: rest).takeWhile (fun c => !Text.isBlank c) = key := by
    rw [List.takeWhile_append_of_pos hall, List.takeWhile_cons_of_neg (by simp [hc]),
      List.append_nil]
  have hdrop : (key ++ c :: rest).dropWhile (fun c => !Text.isBlank c) = c :: rest := by
    rw [List.dropWhile_append_of_pos hall, List.dropWhile_cons_of_neg (by simp [hc])]
  rw [parseWord, htake, hdrop]

/-- After a key and blanks an operator is read. -/
theorem parseWord_operator {key before word : List Char} (hkey : IsKey key)
    (hbefore : Blanks before) (hbefore_ne : before ≠ []) (hword : Solid word)
    (hword_ne : word ≠ []) (rest : List Char) :
    parseWord (key ++ before ++ (word ++ rest)) =
      parseOperator (key ++ before ++ (word ++ rest)) key (word ++ rest) := by
  obtain ⟨c, blanks, rfl⟩ := List.exists_cons_of_ne_nil hbefore_ne
  obtain ⟨first, tail, rfl⟩ := List.exists_cons_of_ne_nil hword_ne
  have hblanks : Blanks blanks := fun other hmem => hbefore other (List.mem_cons_of_mem _ hmem)
  rw [List.append_assoc, List.cons_append,
    parseWord_append hkey.solid (hbefore c List.mem_cons_self),
    Text.trimStart_append_of_blanks hblanks, List.cons_append,
    Text.trimStart_cons (hword first List.mem_cons_self)]

theorem afterWord?_append (word rest : List Char) : afterWord? word (word ++ rest) = some rest := by
  rw [afterWord?, if_pos (List.isPrefixOf_iff_prefix.2 ⟨rest, rfl⟩), List.drop_left]

theorem afterWord?_eq_some {word chars rest : List Char} (h : afterWord? word chars = some rest) :
    chars = word ++ rest := by
  unfold afterWord? at h
  split at h
  · rename_i hprefix
    cases h
    obtain ⟨tail, rfl⟩ := List.isPrefixOf_iff_prefix.1 hprefix
    rw [List.drop_left]
  · cases h

theorem parseSet_clause {key after inside : List Char} {values : List String} (hkey : IsKey key)
    (hafter : Blanks after) (hvalues : Values inside values) :
    parseSet key (after ++ '(' :: (inside ++ [')'])) =
      .ok (String.ofList key, StringSet.ofList values) := by
  refine parseSet_eq_ok_iff.2 ⟨inside, values, ?_, hvalues, ?_, rfl⟩
  · rw [Text.trim, Text.trimStart_append_of_blanks hafter, Text.trimStart_cons (by decide),
      ← List.cons_append, Text.trimEnd_concat (by decide)]
  · rw [Text.trim_of_solid hkey.solid]
    exact key?_eq_ok_iff.2 ⟨hkey, rfl⟩

theorem parseOperator_isIn {key after inside : List Char} {values : List String} (hkey : IsKey key)
    (hafter : Blanks after) (hvalues : Values inside values) (term : List Char) :
    parseOperator term key ("in".toList ++ (after ++ '(' :: (inside ++ [')']))) =
      .ok (.isIn (String.ofList key) (StringSet.ofList values)) := by
  have hnone : afterWord? "notin".toList ("in".toList ++ (after ++ '(' :: (inside ++ [')']))) =
      none := rfl
  simp only [parseOperator, hnone, afterWord?_append, parseSet_clause hkey hafter hvalues,
    Except.map]

theorem parseOperator_notIn {key after inside : List Char} {values : List String} (hkey : IsKey key)
    (hafter : Blanks after) (hvalues : Values inside values) (term : List Char) :
    parseOperator term key ("notin".toList ++ (after ++ '(' :: (inside ++ [')']))) =
      .ok (.notIn (String.ofList key) (StringSet.ofList values)) := by
  simp only [parseOperator, afterWord?_append, parseSet_clause hkey hafter hvalues, Except.map]

/-! Every clause is read. -/

theorem trim_of_isKey {key : List Char} (hkey : IsKey key) {mark : Char}
    (hmark : Text.isBlank mark = false) (front back : List Char) :
    Text.trim (key ++ front ++ mark :: back) = key ++ front ++ mark :: Text.trimEnd back := by
  have hsolid := hkey.solid
  obtain ⟨hne, -⟩ := hkey
  cases key with
  | nil => exact absurd rfl hne
  | cons c key =>
      rw [Text.trim, List.cons_append, List.cons_append,
        Text.trimStart_cons (hsolid c List.mem_cons_self), ← List.cons_append, ← List.cons_append,
        Text.trimEnd_append_cons hmark]

theorem parsePair_clause {key before after value : List Char} (hkey : IsKey key)
    (hbefore : Blanks before) (hafter : Blanks after) (hvalue : IsValue value) :
    parsePair (key ++ before, Text.trimEnd (after ++ value)) =
      .ok (String.ofList key, String.ofList value) := by
  refine parsePair_eq_ok_iff.2 ⟨?_, ?_⟩
  · exact key?_trim Text.blanks_nil hkey hbefore
  · have hread := value?_trim hafter hvalue Text.blanks_nil
    rw [List.append_nil] at hread
    rw [Text.trim_trimEnd]
    exact hread

theorem ordinary_pair {key before after value : List Char} (hkey : IsKey key)
    (hbefore : Blanks before) (hafter : Blanks after) (hvalue : IsValue value) :
    Ordinary (key ++ before) ∧ Ordinary (Text.trimEnd (after ++ value)) := by
  have hback := ordinary_append_iff.2 ⟨ordinary_of_blanks hafter, hvalue.ordinary⟩
  exact ⟨ordinary_append_iff.2 ⟨hkey.ordinary, ordinary_of_blanks hbefore⟩, hback.trimEnd⟩

/-- A key, an operator and a value are read as the comparison reads them. -/
theorem parseExpression_pair {operator : List Char} {make : String → String → Expression}
    (hsolid : Solid operator) (hne : operator ≠ [])
    (hcomparison : ∀ {front back : List Char}, Ordinary front → Ordinary back →
      parseComparison (front ++ (operator ++ back)) =
        (parsePair (front, back)).map fun (key, value) => make key value)
    {key before after value : List Char} (hkey : IsKey key) (hbefore : Blanks before)
    (hafter : Blanks after) (hvalue : IsValue value) :
    parseExpression (Text.trim (key ++ before ++ (operator ++ (after ++ value)))) =
      .ok (make (String.ofList key) (String.ofList value)) := by
  obtain ⟨hfront, hback⟩ := ordinary_pair hkey hbefore hafter hvalue
  rcases List.eq_nil_or_concat' operator with rfl | ⟨first, last, rfl⟩
  · exact absurd rfl hne
  · have hassoc : key ++ before ++ (first ++ [last] ++ (after ++ value)) =
        key ++ (before ++ first) ++ last :: (after ++ value) := by simp
    have htrim : Text.trim (key ++ before ++ (first ++ [last] ++ (after ++ value))) =
        key ++ (before ++ (first ++ [last] ++ Text.trimEnd (after ++ value))) := by
      rw [hassoc, trim_of_isKey hkey (hsolid last (by simp))]
      simp
    rw [htrim, parseExpression_of_isKey hkey, ← List.append_assoc, hcomparison hfront hback,
      parsePair_clause hkey hbefore hafter hvalue]
    rfl

theorem parseExpression_set {key before after inside word : List Char} {values : List String}
    (hkey : IsKey key) (hbefore : Blanks before) (hbefore_ne : before ≠ []) (hafter : Blanks after)
    (hvalues : Values inside values) (hsolid : Solid word) (hordinary : Ordinary word)
    (hword_ne : word ≠ []) :
    ∃ term, parseExpression
        (Text.trim (key ++ before ++ word ++ after ++ '(' :: (inside ++ [')']))) =
      parseOperator term key (word ++ (after ++ '(' :: (inside ++ [')']))) := by
  have hmark : ∀ mark ∈ ['!', '='],
      mark ∉ key ++ before ++ (word ++ (after ++ '(' :: (inside ++ [')']))) := by
    intro mark hmark hmem
    have hmarks : mark ∈ marks := List.mem_append_left ['(', ')', ','] hmark
    have hinside : mark ∉ inside := by
      intro hmem
      rw [hvalues.eq_comma mark hmem hmarks] at hmark
      exact absurd hmark (by decide)
    have hparentheses : mark ≠ '(' ∧ mark ≠ ')' := by
      constructor
      all_goals
        rintro rfl
        exact absurd hmark (by decide)
    simp [hkey.ordinary.not_mem hmarks, (ordinary_of_blanks hbefore).not_mem hmarks,
      hordinary.not_mem hmarks, (ordinary_of_blanks hafter).not_mem hmarks, hinside,
      hparentheses] at hmem
  have hassoc : key ++ before ++ word ++ after ++ '(' :: (inside ++ [')']) =
      key ++ (before ++ word ++ after) ++ '(' :: (inside ++ [')']) := by simp
  have hassoc' : key ++ (before ++ word ++ after) ++ '(' :: (inside ++ [')']) =
      key ++ before ++ (word ++ (after ++ '(' :: (inside ++ [')']))) := by simp
  refine ⟨key ++ before ++ (word ++ (after ++ '(' :: (inside ++ [')']))), ?_⟩
  rw [hassoc, trim_of_isKey hkey (by decide), Text.trimEnd_concat (by decide), List.append_assoc,
    parseExpression_of_isKey hkey, ← List.append_assoc, hassoc',
    parseComparison_word (hmark '!' (by decide)) (hmark '=' (by decide)),
    parseWord_operator hkey hbefore hbefore_ne hsolid hword_ne]

/-- Without the blanks at its ends a clause is read as the grammar has it. -/
theorem parseExpression_of_clause {clause : List Char} {expression : Expression}
    (h : Clause clause expression) : parseExpression (Text.trim clause) = .ok expression := by
  cases h with
  | @absent blanks key hblanks hkey =>
      have hread := key?_trim hblanks hkey Text.blanks_nil
      rw [List.append_nil] at hread
      have htrim : Text.trim ('!' :: (blanks ++ key)) = '!' :: Text.trimEnd (blanks ++ key) := by
        rw [Text.trim, Text.trimStart_cons (by decide)]
        exact Text.trimEnd_append_cons (by decide) [] _
      rw [htrim, parseExpression, Text.trim_trimEnd, hread]
      rfl
  | equal hkey hbefore hafter hvalue =>
      exact parseExpression_pair (show Solid ['='] by decide) (by decide) parseComparison_equal
        hkey hbefore hafter hvalue
  | equalTwice hkey hbefore hafter hvalue =>
      exact parseExpression_pair (show Solid ['=', '='] by decide) (by decide)
        parseComparison_equalTwice hkey hbefore hafter hvalue
  | notEqual hkey hbefore hafter hvalue =>
      exact parseExpression_pair (show Solid ['!', '='] by decide) (by decide)
        (fun hfront _ => parseComparison_notEqual hfront _) hkey hbefore hafter hvalue
  | isIn hkey hbefore hne hafter hvalues =>
      obtain ⟨term, hread⟩ := parseExpression_set hkey hbefore hne hafter hvalues
        (show Solid "in".toList by decide) (by decide) (by decide)
      rw [hread]
      exact parseOperator_isIn hkey hafter hvalues term
  | notIn hkey hbefore hne hafter hvalues =>
      obtain ⟨term, hread⟩ := parseExpression_set hkey hbefore hne hafter hvalues
        (show Solid "notin".toList by decide) (by decide) (by decide)
      rw [hread]
      exact parseOperator_notIn hkey hafter hvalues term
  | present hkey =>
      have hordinary := hkey.ordinary
      have hread := parseExpression_of_isKey hkey []
      rw [List.append_nil] at hread
      rw [Text.trim_of_solid hkey.solid, hread, parseComparison_word
        (hordinary.not_mem (by decide)) (hordinary.not_mem (by decide)),
        parseWord_of_solid hkey.solid, key?_eq_ok_iff.2 ⟨hkey, rfl⟩]
      rfl

/-! Nothing else is read. -/

/-- The two sides of an operator make a requirement if key, operator and value make a clause. -/
theorem requirement_of_parsePair {operator : List Char} {make : String → String → Expression}
    (hclause : ∀ {key before after value : List Char},
      IsKey key → Blanks before → Blanks after → IsValue value →
      Clause (key ++ before ++ (operator ++ (after ++ value)))
        (make (String.ofList key) (String.ofList value)))
    {sides : List Char × List Char} {expression : Expression}
    (h : (parsePair sides).map (fun (key, value) => make key value) = .ok expression) :
    Requirement (sides.1 ++ operator ++ sides.2) expression := by
  obtain ⟨⟨_, _⟩, hpair, rfl⟩ := Except.map_eq_ok_iff.1 h
  obtain ⟨hreadKey, hreadValue⟩ := parsePair_eq_ok_iff.1 hpair
  obtain ⟨before, key, inner, hbefore, hkey, hinner, hfirst, rfl⟩ := exists_of_key?_trim hreadKey
  obtain ⟨inner', value, after, hinner', hvalue, hafter, hsecond, rfl⟩ :=
    exists_of_value?_trim hreadValue
  have hassoc : sides.1 ++ operator ++ sides.2 =
      before ++ (key ++ inner ++ (operator ++ (inner' ++ value))) ++ after := by
    rw [hfirst, hsecond]
    simp
  rw [hassoc]
  exact .intro hbefore (hclause hkey hinner hinner' hvalue) hafter

/-- A set makes a requirement with the key and the word in front of it if they make a clause. -/
theorem requirement_of_parseSet {word : List Char} {make : String → StringSet → Expression}
    (hclause : ∀ {key before after inside : List Char} {values : List String},
      IsKey key → Blanks before → before ≠ [] → Blanks after → Values inside values →
      Clause (key ++ before ++ word ++ after ++ '(' :: (inside ++ [')']))
        (make (String.ofList key) (StringSet.ofList values)))
    {key before rest : List Char} {expression : Expression} (hkey : Solid key)
    (hbefore : Blanks before) (hne : before ≠ [])
    (h : (parseSet key rest).map (fun (key, values) => make key values) = .ok expression) :
    Requirement (key ++ before ++ (word ++ rest)) expression := by
  obtain ⟨⟨_, _⟩, hset, rfl⟩ := Except.map_eq_ok_iff.1 h
  obtain ⟨inside, values, hrest, hvalues, hread, rfl⟩ := parseSet_eq_ok_iff.1 hset
  rw [Text.trim_of_solid hkey] at hread
  obtain ⟨hkeyText, rfl⟩ := key?_eq_ok_iff.1 hread
  obtain ⟨inner, after, hinner, hafter, hsplit⟩ := Text.trim_split rest
  have hassoc : key ++ before ++ (word ++ rest) =
      [] ++ (key ++ before ++ word ++ inner ++ '(' :: (inside ++ [')'])) ++ after := by
    rw [hsplit, hrest]
    simp
  rw [hassoc]
  exact .intro Text.blanks_nil (hclause hkeyText hbefore hne hinner hvalues) hafter

theorem requirement_of_parseOperator {term key before rest : List Char} {expression : Expression}
    (hkey : Solid key) (hbefore : Blanks before) (hne : before ≠ [])
    (h : parseOperator term key rest = .ok expression) :
    Requirement (key ++ before ++ rest) expression := by
  unfold parseOperator at h
  cases hnotIn : afterWord? "notin".toList rest with
  | some values =>
      rw [hnotIn] at h
      rw [afterWord?_eq_some hnotIn]
      exact requirement_of_parseSet .notIn hkey hbefore hne h
  | none =>
      rw [hnotIn] at h
      cases hisIn : afterWord? "in".toList rest with
      | some values =>
          simp only [hisIn] at h
          rw [afterWord?_eq_some hisIn]
          exact requirement_of_parseSet .isIn hkey hbefore hne h
      | none =>
          simp only [hisIn] at h
          cases h

theorem requirement_of_parseWord {term : List Char} {expression : Expression}
    (h : parseWord term = .ok expression) : Requirement term expression := by
  have hkey : Solid (term.takeWhile fun c => !Text.isBlank c) := by
    intro c hmem
    simpa using List.mem_takeWhile_imp hmem
  have hsplit : term.takeWhile (fun c => !Text.isBlank c) ++
      term.dropWhile (fun c => !Text.isBlank c) = term := List.takeWhile_append_dropWhile
  unfold parseWord at h
  cases hrest : term.dropWhile fun c => !Text.isBlank c with
  | nil =>
      simp only [hrest] at h
      obtain ⟨key, hread, rfl⟩ := Except.map_eq_ok_iff.1 h
      obtain ⟨hkeyText, rfl⟩ := key?_eq_ok_iff.1 hread
      rw [hrest, List.append_nil] at hsplit
      rw [hsplit] at hkeyText ⊢
      have hrequirement := Requirement.intro Text.blanks_nil (.present hkeyText) Text.blanks_nil
      rwa [List.nil_append, List.append_nil] at hrequirement
  | cons c rest =>
      simp only [hrest] at h
      have hc : Text.isBlank c = true := by
        have hhead := List.head?_dropWhile_not (fun c => !Text.isBlank c) term
        rw [hrest] at hhead
        simpa using hhead
      obtain ⟨blanks, hblanks, hstart⟩ := Text.trimStart_split rest
      have hbefore : Blanks (c :: blanks) := by
        intro other hmem
        rcases List.mem_cons.1 hmem with rfl | hmem
        · exact hc
        · exact hblanks other hmem
      have hassoc : term = term.takeWhile (fun c => !Text.isBlank c) ++ c :: blanks ++
          Text.trimStart rest := by
        rw [List.append_assoc, List.cons_append, ← hstart, ← hrest, hsplit]
      rw [hassoc]
      exact requirement_of_parseOperator hkey hbefore (by simp) h

theorem requirement_of_parseComparison {term : List Char} {expression : Expression}
    (h : parseComparison term = .ok expression) : Requirement term expression := by
  unfold parseComparison at h
  cases hnot : splitAround? ['!', '='] term with
  | some sides =>
      rw [hnot] at h
      rw [splitAround?_eq_some hnot]
      exact requirement_of_parsePair .notEqual h
  | none =>
      simp only [hnot] at h
      cases htwice : splitAround? ['=', '='] term with
      | some sides =>
          simp only [htwice] at h
          rw [splitAround?_eq_some htwice]
          exact requirement_of_parsePair .equalTwice h
      | none =>
          simp only [htwice] at h
          cases honce : splitAround? ['='] term with
          | some sides =>
              simp only [honce] at h
              rw [splitAround?_eq_some honce]
              exact requirement_of_parsePair .equal h
          | none =>
              simp only [honce] at h
              exact requirement_of_parseWord h

/-- What is read as a requirement is one. -/
theorem requirement_of_parseExpression {term : List Char} {expression : Expression}
    (h : parseExpression term = .ok expression) : Requirement term expression := by
  unfold parseExpression at h
  split at h
  · rename_i rest
    obtain ⟨key, hread, rfl⟩ := Except.map_eq_ok_iff.1 h
    obtain ⟨before, text, after, hbefore, htext, hafter, rfl, rfl⟩ := exists_of_key?_trim hread
    exact .intro Text.blanks_nil (.absent hbefore htext) hafter
  · exact requirement_of_parseComparison h

theorem parseTerm_of_blanks {chars : List Char} (h : Blanks chars) :
    parseTerm chars = .error .emptyRequirement := by
  rw [parseTerm, Text.trim_of_blanks h]
  rfl

theorem parseTerm_eq_ok_iff {chars : List Char} {expression : Expression} :
    parseTerm chars = .ok expression ↔ Requirement chars expression := by
  constructor
  · intro h
    obtain ⟨before, after, hbefore, hafter, hsplit⟩ := Text.trim_split chars
    simp only [parseTerm] at h
    split at h
    · cases h
    · rw [hsplit]
      exact (requirement_of_parseExpression h).surround hbefore hafter
  · intro h
    cases h with
    | @intro before clause after _ hbefore hclause hafter =>
        have hread := parseExpression_of_clause hclause
        have hne : (Text.trim clause).isEmpty = false := by
          rw [List.isEmpty_eq_false_iff]
          intro hempty
          rw [hempty] at hread
          cases hread
        rw [parseTerm, Text.trim_append hbefore hafter, hne]
        exact hread

/-! Splitting a selector into its requirements. -/

/-- A text without parentheses, and without commas if no parenthesis is open, belongs to one
term. -/
theorem splitTerms?_append {depth : Nat} {text : List Char}
    (h : ∀ c ∈ text, c ≠ '(' ∧ c ≠ ')' ∧ (c = ',' → depth ≠ 0)) (current rest : List Char) :
    splitTerms? depth current (text ++ rest) =
      splitTerms? depth (text.reverse ++ current) rest := by
  induction text generalizing current with
  | nil => rfl
  | cons c text ih =>
      obtain ⟨hopen, hclose, hcomma⟩ := h c List.mem_cons_self
      have htext := ih fun other hmem => h other (List.mem_cons_of_mem _ hmem)
      rw [List.reverse_cons, List.append_assoc, List.singleton_append, ← htext, List.cons_append]
      by_cases hc : c = ','
      · rw [hc, splitTerms?, if_neg (hcomma hc)]
      · rw [splitTerms?]
        · exact hopen
        · exact hclose
        · exact hc

theorem splitTerms?_flat {text : List Char} (h : Flat text) (current rest : List Char) :
    splitTerms? 0 current (text ++ rest) = splitTerms? 0 (text.reverse ++ current) rest :=
  splitTerms?_append (fun c hmem => ⟨(h c hmem).1, (h c hmem).2.1,
    fun hcomma => absurd hcomma (h c hmem).2.2⟩) current rest

theorem splitTerms?_parentheses {front inside : List Char} (hfront : Flat front)
    (hinside : ∀ c ∈ inside, c ≠ '(' ∧ c ≠ ')') (current rest : List Char) :
    splitTerms? 0 current (front ++ '(' :: (inside ++ [')']) ++ rest) =
      splitTerms? 0 ((front ++ '(' :: (inside ++ [')'])).reverse ++ current) rest := by
  have hassoc : front ++ '(' :: (inside ++ [')']) ++ rest =
      front ++ '(' :: (inside ++ ')' :: rest) := by simp
  have hone : ∀ c ∈ inside, c ≠ '(' ∧ c ≠ ')' ∧ (c = ',' → 0 + 1 ≠ 0) :=
    fun c hmem => ⟨(hinside c hmem).1, (hinside c hmem).2, fun _ => by decide⟩
  rw [hassoc, splitTerms?_flat hfront, splitTerms?, splitTerms?_append hone, splitTerms?]
  simp

/-- A requirement belongs to one term. -/
theorem splitTerms?_requirement {chars : List Char} {expression : Expression}
    (h : Requirement chars expression) (current rest : List Char) :
    splitTerms? 0 current (chars ++ rest) = splitTerms? 0 (chars.reverse ++ current) rest := by
  cases h with
  | @intro before clause after _ hbefore hclause hafter =>
      have hmiddle : splitTerms? 0 (before.reverse ++ current) (clause ++ (after ++ rest)) =
          splitTerms? 0 (clause.reverse ++ (before.reverse ++ current)) (after ++ rest) := by
        rcases hclause.shape with hflat | ⟨front, inside, rfl, hfront, hinside⟩
        · exact splitTerms?_flat hflat _ _
        · exact splitTerms?_parentheses hfront hinside _ _
      rw [List.append_assoc, List.append_assoc, splitTerms?_flat (flat_of_blanks hbefore), hmiddle,
        splitTerms?_flat (flat_of_blanks hafter)]
      simp

theorem exists_terms_of_requirements {chars : List Char} {selector : Selector}
    (h : Requirements chars selector) :
    ∃ terms, splitTerms? 0 [] chars = some terms ∧ terms.mapM parseTerm = .ok selector := by
  induction h with
  | @one chars expression hrequirement =>
      have hsplit := splitTerms?_requirement hrequirement [] []
      rw [List.append_nil, List.append_nil] at hsplit
      refine ⟨[chars], by rw [hsplit, splitTerms?]; simp, ?_⟩
      exact Except.mapM_cons_eq_ok_iff.2
        ⟨expression, [], parseTerm_eq_ok_iff.2 hrequirement, rfl, rfl⟩
  | @cons chars rest expression selector hrequirement _ ih =>
      obtain ⟨terms, hterms, hread⟩ := ih
      refine ⟨chars :: terms, ?_, ?_⟩
      · rw [splitTerms?_requirement hrequirement, List.append_nil, splitTerms?, if_pos rfl, hterms,
          List.reverse_reverse]
        rfl
      · exact Except.mapM_cons_eq_ok_iff.2
          ⟨expression, selector, parseTerm_eq_ok_iff.2 hrequirement, hread, rfl⟩

/-- Terms that are read one by one make requirements. -/
theorem requirements_of_terms {depth : Nat} {current chars : List Char} {terms : List (List Char)}
    {selector : Selector} (hsplit : splitTerms? depth current chars = some terms)
    (hread : terms.mapM parseTerm = .ok selector) :
    Requirements (current.reverse ++ chars) selector := by
  have hmove : ∀ (current rest : List Char) (c : Char),
      current.reverse ++ c :: rest = (c :: current).reverse ++ rest := by simp
  fun_induction splitTerms? depth current chars generalizing terms selector with
  | case1 current =>
      cases hsplit
      obtain ⟨expression, others, hterm, hothers, rfl⟩ := Except.mapM_cons_eq_ok_iff.1 hread
      cases hothers
      rw [List.append_nil]
      exact .one (parseTerm_eq_ok_iff.1 hterm)
  | case2 => cases hsplit
  | case3 depth current rest ih =>
      rw [hmove]
      exact ih hsplit hread
  | case4 => cases hsplit
  | case5 depth current rest _ ih =>
      rw [hmove]
      exact ih hsplit hread
  | case6 current rest ih =>
      obtain ⟨others, hothers, rfl⟩ := Option.map_eq_some_iff.1 hsplit
      obtain ⟨expression, selector, hterm, hselector, rfl⟩ := Except.mapM_cons_eq_ok_iff.1 hread
      exact .cons (parseTerm_eq_ok_iff.1 hterm) (ih hothers hselector)
  | case7 depth current rest _ ih =>
      rw [hmove]
      exact ih hsplit hread
  | case8 depth current c rest _ _ _ ih =>
      rw [hmove]
      exact ih hsplit hread

theorem splitTerms?_of_blanks {chars : List Char} (h : Blanks chars) :
    splitTerms? 0 [] chars = some [chars] := by
  have hsplit := splitTerms?_flat (flat_of_blanks h) [] []
  rw [List.append_nil, List.append_nil] at hsplit
  rw [hsplit, splitTerms?]
  simp

theorem parseChars_eq_ok_iff {chars : List Char} {selector : Selector} :
    parseChars chars = .ok selector ↔ Selects chars selector := by
  unfold parseChars
  constructor
  · intro h
    cases hsplit : splitTerms? 0 [] chars with
    | none =>
        rw [hsplit] at h
        cases h
    | some terms =>
        simp only [hsplit] at h
        split at h
        · rename_i hblank
          cases h
          exact .blank (Text.trim_eq_nil_iff.1 (List.isEmpty_iff.1 hblank))
        · exact .requirements (requirements_of_terms hsplit h)
  · intro h
    cases h with
    | blank hblanks =>
        rw [splitTerms?_of_blanks hblanks, Text.trim_of_blanks hblanks]
        rfl
    | requirements hrequirements =>
        obtain ⟨terms, hsplit, hread⟩ := exists_terms_of_requirements hrequirements
        have hne : (Text.trim chars).isEmpty = false := by
          rw [List.isEmpty_eq_false_iff]
          intro hempty
          have hblanks := Text.trim_eq_nil_iff.1 hempty
          rw [splitTerms?_of_blanks hblanks] at hsplit
          cases hsplit
          obtain ⟨_, _, hterm, -, -⟩ := Except.mapM_cons_eq_ok_iff.1 hread
          rw [parseTerm_of_blanks hblanks] at hterm
          cases hterm
        rw [hsplit, hne]
        exact hread

theorem selects_nil_iff {chars : List Char} : Selects chars [] ↔ Blanks chars := by
  constructor
  · intro h
    cases h with
    | blank hblanks => exact hblanks
    | requirements hrequirements => cases hrequirements
  · exact .blank

/-- A text is read as a selector if the grammar has it as one, as the empty selector if it is blank,
and with an error that carries the text otherwise. -/
theorem parse_grammar (text : String) :
    (∀ selector, parse text = .ok selector ↔ Selects text.toList selector) ∧
      (parse text = .ok [] ↔ Blanks text.toList) ∧
      ((∃ selector, Selects text.toList selector) ∨
        ∃ reason, parse text = .error ⟨text, reason⟩) := by
  have hparse : ∀ selector, parse text = .ok selector ↔ Selects text.toList selector := by
    intro selector
    rw [← parseChars_eq_ok_iff, parse]
    cases parseChars text.toList <;> simp [Except.mapError]
  refine ⟨hparse, (hparse []).trans selects_nil_iff, ?_⟩
  unfold parse
  cases hchars : parseChars text.toList with
  | ok selector => exact .inl ⟨selector, parseChars_eq_ok_iff.1 hchars⟩
  | error reason => exact .inr ⟨reason, rfl⟩

example : parse " a in (x, y ,x), !b" =
    .ok [.isIn "a" (StringSet.ofList ["x", "y"]), .absent "b"] := by decide +kernel

end Reconciler.Label
