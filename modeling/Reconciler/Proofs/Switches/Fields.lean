import Reconciler.Switches
/-!
The items of a specification as fields between commas.  A field is bare, without quotes, commas and
line breaks, or it stands between quotes, where it can have any characters and a quote is written
twice.  Texts of that form are split into what their fields say, and all others are refused, for
what is wrong where they first leave it.
-/
namespace Reconciler.Switches

variable {place : Place} {item chars written rest : List Char} {content : String}
  {items : List String} {reason : SplitError} {result : Except SplitError (List String)}
  {spec : String}

/-- Whether an item of these characters stands in a specification without quotes. -/
def IsPlain (chars : List Char) : Prop :=
  ∀ c ∈ chars, c ∉ ['"', ',', '\n', '\r']

instance : DecidablePred IsPlain := fun chars =>
  List.decidableBAll (fun c => c ∉ ['"', ',', '\n', '\r']) chars

/-- Characters as they are written between quotes: every quote is written twice. -/
def doubled : List Char → List Char
  | [] => []
  | c :: rest => if c = '"' then '"' :: '"' :: doubled rest else c :: doubled rest

/-- An item as it is written between quotes. -/
def inQuotes (item : String) : String :=
  "\"" ++ String.ofList (doubled item.toList) ++ "\""

/-- The text of a field, and what it says. -/
inductive Field : List Char → String → Prop where
  | bare {chars : List Char} (hplain : IsPlain chars) : Field chars (String.ofList chars)
  | quoted (chars : List Char) : Field ('"' :: (doubled chars ++ ['"'])) (String.ofList chars)

/-- Fields between commas, and what they say. -/
inductive Fields : List Char → List String → Prop where
  | one {written : List Char} {content : String} (hfield : Field written content) :
      Fields written [content]
  | cons {written rest : List Char} {content : String} {items : List String}
      (hfield : Field written content) (hrest : Fields rest items) :
      Fields (written ++ ',' :: rest) (content :: items)

/-- What is wrong with a text that does not consist of fields between commas. -/
inductive Breaks : SplitError → List Char → Prop where
  | unterminatedQuote (chars : List Char) : Breaks .unterminatedQuote ('"' :: doubled chars)
  | afterQuote (chars : List Char) {c : Char} (hquote : c ≠ '"') (hcomma : c ≠ ',')
      (rest : List Char) : Breaks .afterQuote ('"' :: (doubled chars ++ '"' :: c :: rest))
  | bareQuote {chars : List Char} (hplain : IsPlain chars) (hne : chars ≠ []) (rest : List Char) :
      Breaks .bareQuote (chars ++ '"' :: rest)
  | lineBreak {chars : List Char} (hplain : IsPlain chars) {c : Char} (hc : c = '\n' ∨ c = '\r')
      (rest : List Char) : Breaks .lineBreak (chars ++ c :: rest)
  | later {written rest : List Char} {content : String} {reason : SplitError}
      (hfield : Field written content) (hrest : Breaks reason rest) :
      Breaks reason (written ++ ',' :: rest)

/-- The number of commas outside quotes.  A quote opens or closes, and one that is written twice
closes and opens again. -/
def outerCommas (inside : Bool) : List Char → Nat
  | [] => 0
  | c :: rest =>
    if c = '"' then outerCommas (!inside) rest
    else if c = ',' ∧ inside = false then outerCommas inside rest + 1
    else outerCommas inside rest

/-! Characters without a meaning of their own, and characters between quotes. -/

theorem isPlain_nil : IsPlain [] := by
  simp [IsPlain]

theorem isPlain_cons_iff {c : Char} :
    IsPlain (c :: chars) ↔ (c ≠ '"' ∧ c ≠ ',' ∧ c ≠ '\n' ∧ c ≠ '\r') ∧ IsPlain chars := by
  rw [IsPlain, List.forall_mem_cons]
  simp [IsPlain]

theorem isPlain_append_iff : IsPlain (chars ++ rest) ↔ IsPlain chars ∧ IsPlain rest :=
  List.forall_mem_append

@[simp] theorem doubled_nil : doubled [] = [] := rfl

@[simp] theorem doubled_quote : doubled ('"' :: rest) = '"' :: '"' :: doubled rest :=
  if_pos rfl

theorem doubled_of_ne {c : Char} (hquote : c ≠ '"') : doubled (c :: rest) = c :: doubled rest :=
  if_neg hquote

theorem doubled_append (chars rest : List Char) :
    doubled (chars ++ rest) = doubled chars ++ doubled rest := by
  induction chars with
  | nil => rfl
  | cons c chars ih =>
      by_cases hquote : c = '"'
      · subst hquote
        simp [ih]
      · simp [doubled_of_ne hquote, ih]

theorem field_inQuotes (item : String) : Field (inQuotes item).toList item := by
  have hfield := Field.quoted item.toList
  rw [String.ofList_toList] at hfield
  simpa [inQuotes] using hfield

theorem field_of_isPlain (hplain : IsPlain spec.toList) : Field spec.toList spec := by
  have hfield := Field.bare hplain
  rwa [String.ofList_toList] at hfield

/-- Items that are written as fields make a text of fields. -/
theorem fields_intercalate (write : String → String) (hne : items ≠ [])
    (hwrite : ∀ item ∈ items, Field (write item).toList item) :
    Fields (",".intercalate (items.map write)).toList items := by
  induction items with
  | nil => exact absurd rfl hne
  | cons item rest ih =>
      obtain ⟨hitem, hrest⟩ := List.forall_mem_cons.1 hwrite
      cases rest with
      | nil => simpa using Fields.one hitem
      | cons next rest =>
          have hcons := Fields.cons hitem (ih (List.cons_ne_nil next rest) hrest)
          rw [List.map_cons] at hcons ⊢
          rw [List.map_cons, String.intercalate_cons_cons]
          simpa using hcons

/-! How the splitter goes on from each place. -/

theorem splitFrom_start_quote (item rest : List Char) :
    splitFrom .start item ('"' :: rest) = splitFrom .quoted item rest := rfl

/-- Only a quote at its beginning puts a field between quotes. -/
theorem splitFrom_unquoted (hquote : chars.head? ≠ some '"') (item : List Char) :
    splitFrom .start item chars = splitFrom .bare item chars := by
  cases chars with
  | nil => rfl
  | cons c chars =>
      have hne : c ≠ '"' := by simpa using hquote
      exact (if_neg hne).trans (if_neg hne).symm

theorem splitFrom_bare_cons (item : List Char) (c : Char) (rest : List Char) :
    splitFrom .bare item (c :: rest) =
      if c = '"' then .error .bareQuote
      else if c = ',' then (splitFrom .start [] rest).map (String.ofList item.reverse :: ·)
      else if c = '\n' ∨ c = '\r' then .error .lineBreak
      else splitFrom .bare (c :: item) rest := rfl

theorem splitFrom_quoted_cons (item : List Char) (c : Char) (rest : List Char) :
    splitFrom .quoted item (c :: rest) =
      if c = '"' then splitFrom .quote item rest else splitFrom .quoted (c :: item) rest := rfl

theorem splitFrom_quote_cons (item : List Char) (c : Char) (rest : List Char) :
    splitFrom .quote item (c :: rest) =
      if c = '"' then splitFrom .quoted ('"' :: item) rest
      else if c = ',' then (splitFrom .start [] rest).map (String.ofList item.reverse :: ·)
      else .error .afterQuote := rfl

/-- Outside quotes a comma ends the field. -/
theorem splitFrom_comma (hplace : place ≠ .quoted) (item rest : List Char) :
    splitFrom place item (',' :: rest) =
      (splitFrom .start [] rest).map (String.ofList item.reverse :: ·) := by
  cases place with
  | quoted => exact absurd rfl hplace
  | start | bare | quote => rfl

/-- Outside quotes the end of the text ends the field. -/
theorem splitFrom_nil (hplace : place ≠ .quoted) (item : List Char) :
    splitFrom place item [] = .ok [String.ofList item.reverse] := by
  cases place with
  | quoted => exact absurd rfl hplace
  | start | bare | quote => rfl

theorem splitFrom_quoted_nil (item : List Char) :
    splitFrom .quoted item [] = .error .unterminatedQuote := rfl

/-! Fields between commas are split. -/

theorem splitFrom_bare (hplain : IsPlain chars) (item rest : List Char) :
    splitFrom .bare item (chars ++ rest) = splitFrom .bare (chars.reverse ++ item) rest := by
  induction chars generalizing item with
  | nil => rfl
  | cons c chars ih =>
      obtain ⟨⟨hquote, hcomma, hnewline, hreturn⟩, hchars⟩ := isPlain_cons_iff.1 hplain
      rw [List.cons_append, splitFrom_bare_cons, if_neg hquote, if_neg hcomma, if_neg (by simp [*]),
        ih hchars]
      simp

theorem splitFrom_quoted (chars item rest : List Char) :
    splitFrom .quoted item (doubled chars ++ rest) =
      splitFrom .quoted (chars.reverse ++ item) rest := by
  induction chars generalizing item with
  | nil => rfl
  | cons c chars ih =>
      by_cases hquote : c = '"'
      · subst hquote
        rw [doubled_quote, List.cons_append, List.cons_append, splitFrom_quoted_cons, if_pos rfl,
          splitFrom_quote_cons, if_pos rfl, ih]
        simp
      · rw [doubled_of_ne hquote, List.cons_append, splitFrom_quoted_cons, if_neg hquote, ih]
        simp

theorem splitFrom_start (hplain : IsPlain chars) (hquote : (chars ++ rest).head? ≠ some '"') :
    splitFrom .start [] (chars ++ rest) = splitFrom .bare chars.reverse rest := by
  rw [splitFrom_unquoted hquote, splitFrom_bare hplain, List.append_nil]

theorem IsPlain.head?_ne (hplain : IsPlain chars) (hrest : rest.head? ≠ some '"') :
    (chars ++ rest).head? ≠ some '"' := by
  cases chars with
  | nil => exact hrest
  | cons c chars => simpa using (isPlain_cons_iff.1 hplain).1.1

theorem splitFrom_start_quoted (chars rest : List Char) :
    splitFrom .start [] ('"' :: (doubled chars ++ rest)) =
      splitFrom .quoted chars.reverse rest := by
  rw [splitFrom_start_quote, splitFrom_quoted, List.append_nil]

theorem Field.splitFrom_last (h : Field written content) :
    splitFrom .start [] written = .ok [content] := by
  cases h with
  | bare hplain =>
      have hhead : (written ++ []).head? ≠ some '"' := hplain.head?_ne (by simp)
      have hstart := splitFrom_start hplain hhead
      rw [List.append_nil] at hstart
      rw [hstart, splitFrom_nil (by decide), List.reverse_reverse]
  | quoted chars =>
      rw [splitFrom_start_quoted, splitFrom_quoted_cons, if_pos rfl, splitFrom_nil (by decide),
        List.reverse_reverse]

theorem Field.splitFrom_next (h : Field written content) (rest : List Char) :
    splitFrom .start [] (written ++ ',' :: rest) =
      (splitFrom .start [] rest).map (content :: ·) := by
  cases h with
  | bare hplain =>
      rw [splitFrom_start hplain (hplain.head?_ne (by simp)), splitFrom_comma (by decide),
        List.reverse_reverse]
  | quoted chars =>
      rw [List.cons_append, List.append_assoc, splitFrom_start_quoted, List.singleton_append,
        splitFrom_quoted_cons, if_pos rfl, splitFrom_comma (by decide), List.reverse_reverse]

theorem Fields.splitFrom_eq (h : Fields chars items) : splitFrom .start [] chars = .ok items := by
  induction h with
  | one hfield => exact hfield.splitFrom_last
  | cons hfield hrest ih =>
      rw [hfield.splitFrom_next, ih]
      rfl

theorem Breaks.splitFrom_eq (h : Breaks reason chars) :
    splitFrom .start [] chars = .error reason := by
  induction h with
  | unterminatedQuote chars =>
      rw [← List.append_nil (doubled chars), splitFrom_start_quoted, splitFrom_quoted_nil]
  | afterQuote chars hquote hcomma rest =>
      rw [splitFrom_start_quoted, splitFrom_quoted_cons, if_pos rfl, splitFrom_quote_cons,
        if_neg hquote, if_neg hcomma]
  | @bareQuote chars hplain hne rest =>
      have hhead : (chars ++ '"' :: rest).head? ≠ some '"' := by
        obtain ⟨c, more, rfl⟩ := List.exists_cons_of_ne_nil hne
        simpa using (isPlain_cons_iff.1 hplain).1.1
      rw [splitFrom_start hplain hhead, splitFrom_bare_cons, if_pos rfl]
  | @lineBreak chars hplain c hc rest =>
      have hne : c ≠ '"' ∧ c ≠ ',' := by
        rcases hc with rfl | rfl <;> decide
      rw [splitFrom_start hplain (hplain.head?_ne (by simpa using hne.1)),
        splitFrom_bare_cons, if_neg hne.1, if_neg hne.2, if_pos hc]
  | later hfield hrest ih =>
      rw [hfield.splitFrom_next, ih]
      rfl

/-! What is split consists of fields between commas, and what is refused does not. -/

/-- What has been read of a field at a place in it. -/
inductive Reading : Place → List Char → List Char → Prop where
  | start : Reading .start [] []
  | bare {chars : List Char} (hplain : IsPlain chars) (hne : chars ≠ []) :
      Reading .bare chars.reverse chars
  | quoted (chars : List Char) : Reading .quoted chars.reverse ('"' :: doubled chars)
  | quote (chars : List Char) : Reading .quote chars.reverse ('"' :: (doubled chars ++ ['"']))

/-- What a result says of the text that was split. -/
def Judges (chars : List Char) : Except SplitError (List String) → Prop
  | .ok items => Fields chars items
  | .error reason => Breaks reason chars

theorem Judges.next (hfield : Field written content) (hrest : Judges rest result) :
    Judges (written ++ ',' :: rest) (result.map (content :: ·)) := by
  cases result with
  | ok items => exact Fields.cons hfield hrest
  | error reason => exact Breaks.later hfield hrest

/-- A field ends wherever it is not inside quotes. -/
theorem Reading.field (h : Reading place item written) (hplace : place ≠ .quoted) :
    Field written (String.ofList item.reverse) := by
  cases h with
  | start => exact .bare isPlain_nil
  | bare hplain _ =>
      rw [List.reverse_reverse]
      exact .bare hplain
  | quoted chars => exact absurd rfl hplace
  | quote chars =>
      rw [List.reverse_reverse]
      exact .quoted chars

/-- What a character inside a field does: it is read as a part of the field, or the field breaks at
it. -/
inductive Step (place : Place) (item written : List Char) (c : Char) : Prop where
  | reads {next : Place} {longer : List Char} (hreading : Reading next longer (written ++ [c]))
      (hsplit : ∀ rest, splitFrom place item (c :: rest) = splitFrom next longer rest) :
      Step place item written c
  | breaks {reason : SplitError} (hbreaks : ∀ rest, Breaks reason (written ++ c :: rest))
      (hsplit : ∀ rest, splitFrom place item (c :: rest) = .error reason) :
      Step place item written c

/-- A field without quotes breaks at the end of a line. -/
theorem step_of_isPlain (hplain : IsPlain written) (hplace : place = .start ∨ place = .bare)
    {c : Char} (hquote : c ≠ '"') (hcomma : c ≠ ',') :
    Step place written.reverse written c := by
  have hbare : ∀ rest, splitFrom place written.reverse (c :: rest) =
      splitFrom .bare written.reverse (c :: rest) := by
    intro rest
    rcases hplace with rfl | rfl
    · exact splitFrom_unquoted (by simpa using hquote) written.reverse
    · rfl
  by_cases hbreak : c = '\n' ∨ c = '\r'
  · refine .breaks (.lineBreak hplain hbreak) fun rest => ?_
    rw [hbare, splitFrom_bare_cons, if_neg hquote, if_neg hcomma, if_pos hbreak]
  · have hone : IsPlain [c] := by simpa [IsPlain, hquote, hcomma] using hbreak
    have hreading := Reading.bare (isPlain_append_iff.2 ⟨hplain, hone⟩) (by simp)
    refine .reads hreading fun rest => ?_
    rw [hbare, splitFrom_bare_cons, if_neg hquote, if_neg hcomma, if_neg hbreak,
      List.reverse_append]
    rfl

theorem Reading.step (h : Reading place item written) {c : Char}
    (hinside : c = ',' → place = .quoted) : Step place item written c := by
  cases h with
  | start =>
      have hcomma : c ≠ ',' := fun hc => absurd (hinside hc) (by decide)
      by_cases hquote : c = '"'
      · subst hquote
        exact .reads (.quoted []) (splitFrom_start_quote [])
      · exact step_of_isPlain isPlain_nil (.inl rfl) hquote hcomma
  | bare hplain hne =>
      have hcomma : c ≠ ',' := fun hc => absurd (hinside hc) (by decide)
      by_cases hquote : c = '"'
      · subst hquote
        refine .breaks (.bareQuote hplain hne) fun rest => ?_
        rw [splitFrom_bare_cons, if_pos rfl]
      · exact step_of_isPlain hplain (.inr rfl) hquote hcomma
  | quoted chars =>
      by_cases hquote : c = '"'
      · subst hquote
        refine .reads (.quote chars) fun rest => ?_
        rw [splitFrom_quoted_cons, if_pos rfl]
      · have hreading := Reading.quoted (chars ++ [c])
        rw [doubled_append, doubled_of_ne hquote] at hreading
        refine .reads hreading fun rest => ?_
        rw [splitFrom_quoted_cons, if_neg hquote, List.reverse_append]
        rfl
  | quote chars =>
      have hcomma : c ≠ ',' := fun hc => absurd (hinside hc) (by decide)
      by_cases hquote : c = '"'
      -- The quote before was the first of two.
      · subst hquote
        have hreading := Reading.quoted (chars ++ ['"'])
        rw [doubled_append, List.reverse_append] at hreading
        refine .reads (by simpa using hreading) fun rest => ?_
        rw [splitFrom_quote_cons, if_pos rfl]
      · have hbreaks : ∀ rest,
            Breaks .afterQuote ('"' :: (doubled chars ++ ['"']) ++ c :: rest) := by
          intro rest
          simpa using Breaks.afterQuote chars hquote hcomma rest
        refine .breaks hbreaks fun rest => ?_
        rw [splitFrom_quote_cons, if_neg hquote, if_neg hcomma]

/-- What is split from a place in a field says what the field and all that is left say. -/
theorem Reading.judges (h : Reading place item written) (rest : List Char) :
    Judges (written ++ rest) (splitFrom place item rest) := by
  -- The induction is on what is left: every character moves the place and what has been read.
  induction rest generalizing place item written with
  | nil =>
      rw [List.append_nil]
      cases place with
      | quoted =>
          cases h with
          | quoted chars => exact Breaks.unterminatedQuote chars
      | start | bare | quote =>
          rw [splitFrom_nil (by decide)]
          exact Fields.one (h.field (by decide))
  | cons c rest ih =>
      by_cases hinside : c = ',' → place = .quoted
      · cases h.step hinside with
        | reads hreading hsplit =>
            rw [hsplit, List.append_cons]
            exact ih hreading
        | breaks hbreaks hsplit =>
            rw [hsplit]
            exact hbreaks rest
      · obtain ⟨rfl, hplace⟩ := Classical.not_imp.1 hinside
        rw [splitFrom_comma hplace]
        exact Judges.next (h.field hplace) (ih .start)

theorem judges_splitItems (spec : String) : Judges spec.toList (splitItems spec) :=
  Reading.start.judges spec.toList

theorem splitItems_eq_ok_iff : splitItems spec = .ok items ↔ Fields spec.toList items := by
  constructor
  · intro hsplit
    have hjudges := judges_splitItems spec
    rwa [hsplit] at hjudges
  · exact Fields.splitFrom_eq

theorem splitItems_eq_error_iff :
    splitItems spec = .error reason ↔ Breaks reason spec.toList := by
  constructor
  · intro hsplit
    have hjudges := judges_splitItems spec
    rwa [hsplit] at hjudges
  · exact Breaks.splitFrom_eq

example : splitItems "a,\"b\"c" = .error .afterQuote := rfl

/-! The commas outside quotes are those between fields. -/

theorem outerCommas_quote (inside : Bool) (rest : List Char) :
    outerCommas inside ('"' :: rest) = outerCommas (!inside) rest := rfl

theorem outerCommas_comma (rest : List Char) :
    outerCommas false (',' :: rest) = outerCommas false rest + 1 := rfl

theorem outerCommas_of_ne {inside : Bool} {c : Char} (hquote : c ≠ '"')
    (hcomma : c = ',' → inside = true) (rest : List Char) :
    outerCommas inside (c :: rest) = outerCommas inside rest := by
  have hnot : ¬(c = ',' ∧ inside = false) := fun ⟨hc, hinside⟩ => by simp [hcomma hc] at hinside
  exact (if_neg hquote).trans (if_neg hnot)

theorem outerCommas_plain (hplain : IsPlain chars) (rest : List Char) :
    outerCommas false (chars ++ rest) = outerCommas false rest := by
  induction chars with
  | nil => rfl
  | cons c chars ih =>
      obtain ⟨⟨hquote, hcomma, -, -⟩, hchars⟩ := isPlain_cons_iff.1 hplain
      rw [List.cons_append, outerCommas_of_ne hquote (fun hc => absurd hc hcomma), ih hchars]

theorem outerCommas_doubled (chars rest : List Char) :
    outerCommas true (doubled chars ++ rest) = outerCommas true rest := by
  induction chars with
  | nil => rfl
  | cons c chars ih =>
      by_cases hquote : c = '"'
      · subst hquote
        rw [doubled_quote, List.cons_append, List.cons_append, outerCommas_quote,
          outerCommas_quote]
        exact ih
      · rw [doubled_of_ne hquote, List.cons_append, outerCommas_of_ne hquote (fun _ => rfl), ih]

theorem Field.outerCommas_append (h : Field written content) (rest : List Char) :
    outerCommas false (written ++ rest) = outerCommas false rest := by
  cases h with
  | bare hplain => exact outerCommas_plain hplain rest
  | quoted chars =>
      rw [List.cons_append, List.append_assoc, outerCommas_quote, Bool.not_false,
        outerCommas_doubled, List.singleton_append, outerCommas_quote, Bool.not_true]

theorem Fields.length_eq (h : Fields chars items) :
    items.length = outerCommas false chars + 1 := by
  induction h with
  | @one written content hfield =>
      have hnone := hfield.outerCommas_append []
      rw [List.append_nil] at hnone
      rw [hnone]
      rfl
  | cons hfield hrest ih =>
      rw [hfield.outerCommas_append, outerCommas_comma, List.length_cons, ih]

/-- Exactly the texts of fields between commas are split, into what the fields say; every other text
is refused, for what is wrong with it.  So whatever is written between quotes is read back, and
there is one more item than there are commas outside quotes. -/
theorem splitItems_reads_fields :
    (∀ spec items, splitItems spec = .ok items ↔ Fields spec.toList items) ∧
    (∀ spec reason, splitItems spec = .error reason ↔ Breaks reason spec.toList) ∧
    (∀ spec, (¬∃ items, Fields spec.toList items) ↔ ∃ reason, splitItems spec = .error reason) ∧
    (∀ items, items ≠ [] → splitItems (",".intercalate (items.map inQuotes)) = .ok items) ∧
    ∀ spec items, splitItems spec = .ok items →
      items.length = outerCommas false spec.toList + 1 := by
  refine ⟨fun spec items => splitItems_eq_ok_iff, fun spec reason => splitItems_eq_error_iff,
    fun spec => ?_, fun items hne => ?_, fun spec items hsplit => ?_⟩
  · simp only [← splitItems_eq_ok_iff]
    cases splitItems spec <;> simp
  · exact splitItems_eq_ok_iff.2 (fields_intercalate inQuotes hne fun item _ => field_inQuotes item)
  · exact (splitItems_eq_ok_iff.1 hsplit).length_eq

/-- Items with quotes, commas and a line break, and a text with an empty field at either end. -/
theorem splitItems_reads_fields_greeting :
    ",".intercalate (["say \"hi\"", "", "a,\n"].map inQuotes) =
        "\"say \"\"hi\"\"\",\"\",\"a,\n\"" ∧
      splitItems "\"say \"\"hi\"\"\",\"\",\"a,\n\"" = .ok ["say \"hi\"", "", "a,\n"] ∧
      splitItems ",\"a,\"\"\"," = .ok ["", "a,\"", ""] ∧
      outerCommas false ",\"a,\"\"\",".toList = 2 := by
  have hwritten : ",".intercalate (["say \"hi\"", "", "a,\n"].map inQuotes) =
      "\"say \"\"hi\"\"\",\"\",\"a,\n\"" := by
    decide +kernel
  have hsplit : splitItems ",\"a,\"\"\"," = .ok ["", "a,\"", ""] := by
    rfl
  obtain ⟨-, -, -, hquotes, hlength⟩ := splitItems_reads_fields
  refine ⟨hwritten, ?_, hsplit, ?_⟩
  · have hback := hquotes ["say \"hi\"", "", "a,\n"] (by simp)
    rwa [hwritten] at hback
  · simpa using (hlength _ _ hsplit).symm

end Reconciler.Switches
