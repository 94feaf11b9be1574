import Reconciler.Attempt
import Reconciler.Kustomize.Reader
import Reconciler.Proofs.Json.RoundTrip
import Mathlib.Data.List.Forall2
import Mathlib.Data.Option.Basic
/-!
Documents by their values.  A string is the value of a scalar with that text only, a list that of a
sequence of its items, and a mapping whose keys are texts that of a mapping with a field for each of
its entries.  So where such a value is written, it does not matter how: what reads the document
finds the same texts, items and fields.
-/
namespace Reconciler

namespace Entries

variable {κ α β : Type}

theorem keys_eq (related : α → β → Prop) {left : List (κ × α)} {right : List (κ × β)}
    (h : List.Forall₂ (fun a b => a.1 = b.1 ∧ related a.2 b.2) left right) :
    left.map (·.1) = right.map (·.1) := by
  induction h with
  | nil => rfl
  | cons hfirst _ ih => rw [List.map_cons, List.map_cons, hfirst.1, ih]

/-- Lists with the same keys and related values have related look-ups. -/
theorem rel_get? [Ord κ] (related : α → β → Prop) {left : List (κ × α)} {right : List (κ × β)}
    (h : List.Forall₂ (fun a b => a.1 = b.1 ∧ related a.2 b.2) left right) (key : κ) :
    Option.Rel related (get? key left) (get? key right) := by
  induction h with
  | nil => exact .none
  | cons hfirst _ ih =>
      rw [get?, get?, hfirst.1]
      split
      · exact .some hfirst.2
      · exact ih

end Entries

namespace Yaml

/-- The mapping with some entries, whose keys are texts. -/
def Value.named (entries : List (String × Value)) : Value :=
  .map (entries.map fun entry => (.str entry.1, entry.2))

/-- Fields whose nodes have the values of some entries, name by name; no name stands twice. -/
structure Stand (fields : List (String × Node)) (entries : List (String × Value)) : Prop where
  each : List.Forall₂ (fun field entry => field.1 = entry.1 ∧ Value.ofNode field.2 = .ok entry.2)
    fields entries
  nodup : (entries.map (·.1)).Nodup

theorem mapM_eq_some_iff {α β : Type} {change : α → Option β} {items : List α} {values : List β} :
    items.mapM change = some values ↔
      List.Forall₂ (fun item value => change item = some value) items values := by
  induction items generalizing values with
  | nil => simp [List.mapM_nil, eq_comm]
  | cons first rest ih =>
      rw [Json.mapM_cons_eq_some_iff, List.forall₂_cons_left_iff]
      simp only [ih, exists_and_left]

theorem exists_forall₂ {α β : Type} {related : α → β → Prop} {right : List β}
    (h : ∀ b ∈ right, ∃ a, related a b) : ∃ left, List.Forall₂ related left right := by
  induction right with
  | nil => exact ⟨[], .nil⟩
  | cons b rest ih =>
      obtain ⟨⟨a, ha⟩, hrest⟩ := List.forall_mem_cons.1 h
      obtain ⟨left, hleft⟩ := ih hrest
      exact ⟨a :: left, .cons ha hleft⟩

theorem exists_mem_of_forall₂ {α β : Type} {related : α → β → Prop} {left : List α}
    {right : List β} (h : List.Forall₂ related left right) {b : β} (hb : b ∈ right) :
    ∃ a ∈ left, related a b := by
  induction h with
  | nil => cases hb
  | cons hfirst _ ih =>
      rcases List.mem_cons.1 hb with rfl | hb
      · exact ⟨_, List.mem_cons_self, hfirst⟩
      · obtain ⟨a, ha, hrelated⟩ := ih hb
        exact ⟨a, List.mem_cons_of_mem _ ha, hrelated⟩

namespace Scalar

/-- What a scalar can mean: no text but its own. -/
inductive Meaning (text : String) : Value → Prop
  | null : Meaning text .null
  | bool (value : Bool) : Meaning text (.bool value)
  | int (value : Int) : Meaning text (.int value)
  | float (value : Float) : Meaning text (.float value)
  | str : Meaning text (.str text)

variable {text : String} {meant : Value}

theorem exists_int_of_whole? (h : whole? text = some (.ok meant)) : ∃ n, meant = .int n := by
  obtain ⟨n, -, hn⟩ := Option.bind_eq_some_iff.1 h
  rw [ofInt] at hn
  split at hn
  · exact ⟨n, (Except.ok.inj (Option.some.inj hn)).symm⟩
  · split at hn <;> cases hn

theorem meaning_of_whole? (h : whole? text = some (.ok meant)) : Meaning text meant := by
  obtain ⟨n, rfl⟩ := exists_int_of_whole? h
  exact .int n

theorem resolve_eq_null_iff :
    resolve text = .ok .null ↔ (text.isEmpty || isNull text) = true := by
  rw [resolve]
  split
  · exact iff_of_true rfl ‹_›
  · refine iff_of_false ?_ ‹_›
    split
    · simp
    · rename_i hwhole
      rintro rfl
      obtain ⟨n, hn⟩ := exists_int_of_whole? hwhole
      cases hn
    · split <;> simp

theorem meaning_of_resolve (h : resolve text = .ok meant) : Meaning text meant := by
  rw [resolve] at h
  split at h
  · obtain rfl := Except.ok.inj h
    exact .null
  · split at h
    · obtain rfl := Except.ok.inj h
      exact .bool _
    · rename_i hwhole
      exact meaning_of_whole? (hwhole.trans (congrArg some h))
    · split at h
      · obtain rfl := Except.ok.inj h
        exact .float _
      · obtain rfl := Except.ok.inj h
        exact .str

theorem eq_some_of_demanded {found : Option Value} (h : demanded found = .ok meant) :
    found = some meant := by
  rcases found with _ | found
  · cases h
  · exact congrArg some (Except.ok.inj h)

theorem meaning_of_value {tag : Option Tag} {plain : Bool}
    (h : value tag text plain = .ok meant) : Meaning text meant := by
  have htext : ∀ {meant}, Except.ok (Value.str text) = (.ok meant : Except Error Value) →
      Meaning text meant := by
    rintro _ ⟨⟩
    exact .str
  rcases tag with _ | tag <;> rw [value] at h
  · cases plain
    · exact htext h
    · exact meaning_of_resolve h
  · split at h
    · obtain ⟨found, -, rfl⟩ := Option.map_eq_some_iff.1 (eq_some_of_demanded h)
      exact .bool found
    split at h
    · rcases hwhole : whole? text with _ | whole <;> rw [hwhole] at h
      · cases h
      · exact meaning_of_whole? (hwhole.trans (congrArg some h))
    split at h
    · obtain ⟨found, -, rfl⟩ := Option.map_eq_some_iff.1 (eq_some_of_demanded h)
      exact .float found
    split at h
    · have hnull := eq_some_of_demanded h
      split at hnull <;> cases hnull
      exact .null
    split at h
    · exact meaning_of_resolve h
    · exact htext h

end Scalar

namespace Value

/-- What a value says about a node that has it. -/
inductive Shows : Node → Value → Prop
  | scalar {tag : Option Tag} {text : String} {plain : Bool} {value : Value}
      (meant : Scalar.value tag text plain = .ok value) : Shows (.scalar tag text plain) value
  | sequence {tag : Option Tag} {items : List Node} {values : List Value}
      (held : ofNodes items = .ok values) : Shows (.sequence tag items) (.seq values)
  | mapping {tag : Option Tag} {nodes : List (Node × Node)} {pairs : List (Value × Value)}
      (held : ofPairs nodes = .ok pairs) : Shows (.mapping tag nodes) (.map pairs)
  | tagged {node : Node} {tag : String} {value : Value} : Shows node (.tagged tag value)

theorem exists_of_withTag {name : String} {inside made : Value}
    (h : withTag name inside = .ok made) : ∃ tag, made = .tagged tag inside := by
  rw [withTag] at h
  split at h
  · cases h
  · exact ⟨_, (Except.ok.inj h).symm⟩

theorem shows_of_ofNode {node : Node} {value : Value} (h : ofNode node = .ok value) :
    Shows node value := by
  have htagged : ∀ {name inside}, withTag name inside = .ok value → Shows node value := by
    intro name inside hwith
    obtain ⟨tag, rfl⟩ := exists_of_withTag hwith
    exact .tagged
  rcases node with ⟨tag, text, plain⟩ | ⟨tag, items⟩ | ⟨tag, nodes⟩ <;> rw [ofNode] at h <;>
    split at h
  · obtain ⟨_, -, hwith⟩ := Except.bind_eq_ok_iff.1 h
    exact htagged hwith
  · exact .scalar h
  · obtain ⟨_, -, hwith⟩ := Except.bind_eq_ok_iff.1 h
    exact htagged hwith
  · obtain ⟨values, hvalues, rfl⟩ := Except.map_eq_ok_iff.1 h
    exact .sequence hvalues
  · obtain ⟨_, -, hwith⟩ := Except.bind_eq_ok_iff.1 h
    exact htagged hwith
  · obtain ⟨pairs, hpairs, rfl⟩ := Except.map_eq_ok_iff.1 h
    exact .mapping hpairs

theorem ofNodes_eq_ok_iff {nodes : List Node} {values : List Value} :
    ofNodes nodes = .ok values ↔
      List.Forall₂ (fun node value => ofNode node = .ok value) nodes values := by
  induction nodes generalizing values with
  | nil => simp [ofNodes, eq_comm]
  | cons node nodes ih =>
      rw [ofNodes, List.forall₂_cons_left_iff]
      constructor
      · intro h
        obtain ⟨value, hnode, h⟩ := Except.bind_eq_ok_iff.1 h
        obtain ⟨others, hnodes, h⟩ := Except.bind_eq_ok_iff.1 h
        exact ⟨value, others, hnode, ih.1 hnodes, (Except.ok.inj h).symm⟩
      · rintro ⟨value, others, hnode, hnodes, rfl⟩
        rw [hnode, ih.2 hnodes]
        rfl

mutual

/-- A value counts as equal to itself. -/
theorem same_self : ∀ value : Value, value.same value = true
  | .null => rfl
  | .bool _ => by simp [same]
  | .int _ => by simp [same]
  | .float value => by cases value <;> simp [same, Float.same]
  | .str _ => by simp [same]
  | .seq items => by rw [same, sameItems_self items]
  | .map pairs => by simp [same, included_of_subset pairs pairs fun _ hpair => hpair]
  | .tagged _ value => by simp [same, same_self value]

theorem sameItems_self : ∀ items : List Value, sameItems items items = true
  | [] => rfl
  | item :: items => by rw [sameItems, same_self item, sameItems_self items, Bool.and_self]

theorem included_of_subset : ∀ (pairs others : List (Value × Value)),
    (∀ pair ∈ pairs, pair ∈ others) → included pairs others = true
  | [], _, _ => rfl
  | (key, value) :: pairs, others, hsubset => by
      obtain ⟨hfirst, hrest⟩ := List.forall_mem_cons.1 hsubset
      rw [included, included_of_subset pairs others hrest, Bool.and_true, List.any_eq_true]
      exact ⟨(key, value), hfirst, by rw [same_self key, same_self value, Bool.and_self]⟩

end

variable {entries : List (String × Value)}

@[simp] theorem get?_named (name : String) :
    (named entries).get? name = Entries.get? name entries := by
  rw [named, get?]
  induction entries with
  | nil => rfl
  | cons entry rest ih =>
      rw [List.map_cons, List.find?_cons, Entries.get?]
      by_cases hsame : compare name entry.1 = .eq
      · obtain rfl := Std.LawfulEqOrd.eq_of_compare hsame
        simp [same]
      · have hne : entry.1 ≠ name := by
          rintro rfl
          exact hsame Std.ReflCmp.compare_self
        simpa [same, hne, hsame] using ih

theorem addPair_named (name : String) (value : Value) :
    addPair (.str name) value (entries.map fun entry => (.str entry.1, entry.2)) =
      if name ∈ entries.map (·.1) then .error .duplicateKey
      else .ok (((name, value) :: entries).map fun entry => (.str entry.1, entry.2)) := by
  have htaken : ((entries.map fun entry => (Value.str entry.1, entry.2)).any
      fun pair => pair.1.same (.str name)) = true ↔ name ∈ entries.map (·.1) := by
    simp [same]
  simp only [addPair, htaken, List.map_cons]

/-- A mapping whose keys are texts is one of pairs with these texts and values; no text stands
twice. -/
theorem ofPairs_eq_ok_iff {nodes : List (Node × Node)} :
    ofPairs nodes = .ok (entries.map fun entry => (.str entry.1, entry.2)) ↔
      List.Forall₂ (fun pair entry => ofNode pair.1 = .ok (.str entry.1) ∧
          ofNode pair.2 = .ok entry.2) nodes entries ∧
        (entries.map (·.1)).Nodup := by
  induction nodes generalizing entries with
  | nil => cases entries <;> simp [ofPairs]
  | cons node nodes ih =>
      rw [ofPairs]
      constructor
      · intro h
        obtain ⟨key, hkey, h⟩ := Except.bind_eq_ok_iff.1 h
        obtain ⟨value, hvalue, h⟩ := Except.bind_eq_ok_iff.1 h
        obtain ⟨pairs, hpairs, h⟩ := Except.bind_eq_ok_iff.1 h
        have hmade := h
        rw [addPair] at hmade
        split at hmade
        · cases hmade
        obtain ⟨entry, rest, rfl, hentry, hrest⟩ :=
          List.map_eq_cons_iff.1 (Except.ok.inj hmade).symm
        obtain ⟨rfl, rfl⟩ := Prod.mk.inj hentry
        subst hrest
        rw [addPair_named] at h
        split at h
        · cases h
        · rename_i hfresh
          obtain ⟨hall, hkeys⟩ := ih.1 hpairs
          exact ⟨.cons ⟨hkey, hvalue⟩ hall, List.nodup_cons.2 ⟨hfresh, hkeys⟩⟩
      · rintro ⟨hall, hkeys⟩
        obtain ⟨entry, rest, ⟨hkey, hvalue⟩, hrest, rfl⟩ := List.forall₂_cons_left_iff.1 hall
        obtain ⟨hfresh, hkeys⟩ := List.nodup_cons.1 hkeys
        rw [hkey, hvalue, ih.2 ⟨hrest, hkeys⟩]
        change addPair (.str entry.1) entry.2 _ = _
        rw [addPair_named, if_neg hfresh]

end Value

namespace Node

variable {node : Node} {entries : List (String × Value)}

/-- A string is written as a scalar with its text. -/
theorem exists_scalar {string : String} (h : Value.ofNode node = .ok (.str string)) :
    ∃ tag plain, node = .scalar tag string plain ∧
      Scalar.value tag string plain = .ok (.str string) := by
  cases Value.shows_of_ofNode h with
  | scalar hmeant =>
      cases Scalar.meaning_of_value hmeant
      exact ⟨_, _, rfl, hmeant⟩

theorem value?_eq_some_iff {value : Value} :
    node.value? = some value ↔ Value.ofNode node = .ok value :=
  Except.toOption_eq_some_iff

theorem text?_of_str {string : String} (h : Value.ofNode node = .ok (.str string)) :
    node.text? = some string := by
  obtain ⟨tag, plain, rfl, -⟩ := exists_scalar h
  rfl

theorem nullableText?_of_str {string : String} (h : Value.ofNode node = .ok (.str string)) :
    node.nullableText? = some (some string) := by
  obtain ⟨tag, plain, rfl, hmeant⟩ := exists_scalar h
  rcases plain with _ | _
  · rfl
  rcases tag with _ | tag
  · have hnull : ¬ (string.isEmpty || Scalar.isNull string) = true := by
      rw [← Scalar.resolve_eq_null_iff]
      intro hnull
      cases hmeant.symm.trans hnull
    simp only [nullableText?, if_neg hnull]
  · have htag : tag ≠ .ofCommon "null" := by
      rintro rfl
      have hnull : Scalar.value (some (.ofCommon "null")) string true =
          Scalar.demanded (if Scalar.isNull string then some .null else none) := by
        rw [Scalar.value, if_neg (by decide), if_neg (by decide), if_neg (by decide), if_pos rfl]
      have hfound := Scalar.eq_some_of_demanded (hnull.symm.trans hmeant)
      split at hfound <;> cases hfound
    simp only [nullableText?, if_pos htag]

theorem exists_items_of_seq {values : List Value} (h : Value.ofNode node = .ok (.seq values)) :
    ∃ items, List.Forall₂ (fun item value => Value.ofNode item = .ok value) items values ∧
      ∀ (α : Type) (decode : Node → Option α), node.list? decode = items.mapM decode := by
  cases Value.shows_of_ofNode h with
  | scalar hmeant => cases Scalar.meaning_of_value hmeant
  | sequence hheld => exact ⟨_, Value.ofNodes_eq_ok_iff.1 hheld, fun _ _ => rfl⟩

theorem exists_fields_of_pairs {nodes : List (Node × Node)}
    (h : List.Forall₂ (fun pair entry => Value.ofNode pair.1 = .ok (.str entry.1) ∧
      Value.ofNode pair.2 = .ok entry.2) nodes entries) :
    ∃ fields, nodes.mapM (fun pair => (text? pair.1).map (·, pair.2)) = some fields ∧
      List.Forall₂ (fun field entry => field.1 = entry.1 ∧ Value.ofNode field.2 = .ok entry.2)
        fields entries := by
  simp only [mapM_eq_some_iff]
  induction h with
  | nil => exact ⟨[], .nil, .nil⟩
  | @cons pair entry _ _ hfirst _ ih =>
      obtain ⟨fields, hfields, heach⟩ := ih
      refine ⟨(entry.1, pair.2) :: fields, .cons ?_ hfields, .cons ⟨rfl, hfirst.2⟩ heach⟩
      rw [text?_of_str hfirst.1]
      rfl

theorem exists_fields_of_named (h : Value.ofNode node = .ok (.named entries)) :
    ∃ fields, node.fields? = some fields ∧ Stand fields entries := by
  cases Value.shows_of_ofNode h with
  | scalar hmeant => cases Scalar.meaning_of_value hmeant
  | mapping hheld =>
      obtain ⟨hall, hkeys⟩ := Value.ofPairs_eq_ok_iff.1 hheld
      obtain ⟨fields, hfields, heach⟩ := exists_fields_of_pairs hall
      exact ⟨fields, hfields, heach, hkeys⟩

end Node

section

variable {α β : Type} {decode : β → Option α} {absent : α} {fields : List (String × β)}
  {name : String}

theorem once?_eq_get? (hkeys : (fields.map (·.1)).Nodup) :
    once? fields name = some (Entries.get? name fields) := by
  induction fields with
  | nil => rfl
  | cons field rest ih =>
      obtain ⟨hfirst, hrest⟩ := List.nodup_cons.1 hkeys
      rw [once?, List.filter_cons, Entries.get?]
      by_cases hname : field.1 = name
      · subst hname
        have hnone : rest.filter (fun other => other.1 = field.1) = [] := by
          rw [List.filter_eq_nil_iff]
          intro other hother hsame
          exact hfirst (List.mem_map.2 ⟨other, hother, by simpa using hsame⟩)
        simp [hnone]
      · have hother : compare name field.1 ≠ .eq := fun hsame =>
          hname (Std.LawfulEqOrd.eq_of_compare hsame).symm
        simpa [hname, hother, once?] using ih hrest

theorem requiredOnce?_eq (hkeys : (fields.map (·.1)).Nodup) :
    requiredOnce? decode fields name = (Entries.get? name fields).bind decode := by
  rw [requiredOnce?, once?_eq_get? hkeys]
  rfl

theorem optionalOnce?_eq (hkeys : (fields.map (·.1)).Nodup) :
    optionalOnce? decode absent fields name =
      (Entries.get? name fields).elim (some absent) decode := by
  rw [optionalOnce?, once?_eq_get? hkeys]
  cases Entries.get? name fields <;> rfl

end

/-- The entries of the parts that are there. -/
def entriesOf (parts : List (String × Option Value)) : List (String × Value) :=
  parts.filterMap fun part => part.2.map (part.1, ·)

theorem entriesOf_cons (name : String) (value : Option Value)
    (parts : List (String × Option Value)) :
    entriesOf ((name, value) :: parts) = (value.toList.map (name, ·)) ++ entriesOf parts := by
  cases value <;> rfl

theorem map_entriesOf (parts : List (String × Option Value)) :
    (entriesOf parts).map (fun entry => (Value.str entry.1, entry.2)) =
      parts.flatMap fun part => setField part.1 part.2 := by
  induction parts with
  | nil => rfl
  | cons part rest ih =>
      rw [entriesOf_cons, List.map_append, ih, List.flatMap_cons, setField, List.map_map]
      rfl

theorem sublist_keys_entriesOf (parts : List (String × Option Value)) :
    ((entriesOf parts).map (·.1)).Sublist (parts.map (·.1)) := by
  induction parts with
  | nil => exact .slnil
  | cons part rest ih =>
      obtain ⟨name, value⟩ := part
      rw [entriesOf_cons]
      cases value with
      | none => exact ih.cons name
      | some value => exact ih.cons_cons name

/-- Entries of parts, with others behind them; no name stands twice. -/
theorem nodup_keys_entriesOf {parts : List (String × Option Value)} {others : List (String × Value)}
    (hkeys : (parts.map (·.1) ++ others.map (·.1)).Nodup) :
    ((entriesOf parts ++ others).map (·.1)).Nodup := by
  rw [List.map_append]
  exact ((sublist_keys_entriesOf parts).append_right _).nodup hkeys

theorem get?_entriesOf_of_not_mem {parts : List (String × Option Value)} {name : String}
    (habsent : name ∉ parts.map (·.1)) : Entries.get? name (entriesOf parts) = none :=
  Entries.get?_eq_none_of_not_mem fun hmem => habsent ((sublist_keys_entriesOf parts).subset hmem)

theorem get?_entriesOf {parts : List (String × Option Value)} (hkeys : (parts.map (·.1)).Nodup)
    {name : String} {value : Option Value} (hpart : (name, value) ∈ parts) :
    Entries.get? name (entriesOf parts) = value := by
  induction parts with
  | nil => cases hpart
  | cons part rest ih =>
      obtain ⟨hfirst, hrest⟩ := List.nodup_cons.1 hkeys
      obtain ⟨first, held⟩ := part
      rw [entriesOf_cons, Entries.get?_append]
      rcases List.mem_cons.1 hpart with hsame | hmem
      · obtain ⟨rfl, rfl⟩ := Prod.mk.inj hsame
        rw [get?_entriesOf_of_not_mem hfirst]
        cases value <;> simp [Entries.get?]
      · have hother : compare name first ≠ .eq := fun hsame => by
          obtain rfl := Std.LawfulEqOrd.eq_of_compare hsame
          exact hfirst (List.mem_map.2 ⟨_, hmem, rfl⟩)
        rw [ih hrest hmem]
        cases held <;> simp [Entries.get?, hother]

theorem get?_entriesOf_append {parts : List (String × Option Value)}
    {others : List (String × Value)} (hkeys : (parts.map (·.1) ++ others.map (·.1)).Nodup)
    {name : String} {value : Option Value} (hpart : (name, value) ∈ parts) :
    Entries.get? name (entriesOf parts ++ others) = value := by
  have hname : name ∈ parts.map (·.1) := List.mem_map.2 ⟨_, hpart, rfl⟩
  have habsent : Entries.get? name others = none :=
    Entries.get?_eq_none_of_not_mem fun hmem =>
      (List.disjoint_of_nodup_append hkeys) hname hmem
  rw [Entries.get?_append, get?_entriesOf hkeys.of_append_left hpart, habsent, Option.or_none]

theorem Node.textMap?_of_texts {node : Node} {map : StringMap}
    (h : Value.ofNode node =
      .ok (.map (map.entries.map fun entry => (.str entry.1, .str entry.2)))) :
    node.textMap? = some map := by
  have hnamed : Value.ofNode node =
      .ok (.named (map.entries.map fun entry => (entry.1, .str entry.2))) := by
    rw [h, Value.named, List.map_map]
    rfl
  obtain ⟨fields, hfields, hstand⟩ := exists_fields_of_named hnamed
  have htexts : fields.mapM (fun field => (text? field.2).map (field.1, ·)) = some map.entries := by
    rw [mapM_eq_some_iff]
    refine (List.forall₂_map_right_iff.1 hstand.each).imp fun field entry hfield => ?_
    rw [text?_of_str hfield.2, hfield.1]
    rfl
  simp only [textMap?, hfields, htexts, Option.bind_eq_bind, Option.bind_some,
    SortedMap.ofList_entries, Option.pure_def]

namespace Stand

variable {α : Type} {decode : Node → Option α} {absent written : α}
  {fields : List (String × Node)} {entries : List (String × Value)} {name : String}

theorem keys (h : Stand fields entries) : fields.map (·.1) = entries.map (·.1) :=
  Entries.keys_eq (fun node value => Value.ofNode node = .ok value) h.each

theorem nodup_fields (h : Stand fields entries) : (fields.map (·.1)).Nodup :=
  h.keys ▸ h.nodup

theorem rel_get? (h : Stand fields entries) (name : String) :
    Option.Rel (fun node value => Value.ofNode node = .ok value) (Entries.get? name fields)
      (Entries.get? name entries) :=
  Entries.rel_get? (fun node value => Value.ofNode node = .ok value) h.each name

/-- A field is read again where its value is written. -/
theorem requiredOnce? (h : Stand fields entries)
    {value : Value} (hentry : Entries.get? name entries = some value)
    (hdecode : ∀ node, Value.ofNode node = .ok value → decode node = some written) :
    requiredOnce? decode fields name = some written := by
  rw [requiredOnce?_eq h.nodup_fields]
  have hrel := h.rel_get? name
  rw [hentry] at hrel
  generalize Entries.get? name fields = field at hrel ⊢
  cases hrel with
  | some hnode => exact hdecode _ hnode

/-- A field that may be absent is read again where its value is written, if it is left out only for
what stands for it when it is absent. -/
theorem optionalOnce? (h : Stand fields entries)
    (hsome : ∀ value, Entries.get? name entries = some value →
      ∀ node, Value.ofNode node = .ok value → decode node = some written)
    (hnone : Entries.get? name entries = none → absent = written) :
    optionalOnce? decode absent fields name = some written := by
  rw [optionalOnce?_eq h.nodup_fields]
  have hrel := h.rel_get? name
  generalize Entries.get? name fields = field at hrel ⊢
  generalize Entries.get? name entries = entry at hrel hsome hnone
  cases hrel with
  | none => exact congrArg some (hnone rfl)
  | some hnode => exact hsome _ rfl _ hnode

theorem requiredText? (h : Stand fields entries) {text : String}
    (hentry : Entries.get? name entries = some (.str text)) :
    Yaml.requiredOnce? Node.text? fields name = some text :=
  h.requiredOnce? hentry fun _ => Node.text?_of_str

theorem nullableText? (h : Stand fields entries)
    {text : Option String} (hentry : Entries.get? name entries = text.map .str) :
    Yaml.optionalOnce? Node.nullableText? none fields name = some text := by
  refine h.optionalOnce? ?_ ?_ <;> rw [hentry]
  · intro value hvalue node hnode
    obtain ⟨text, rfl, rfl⟩ := Option.map_eq_some_iff.1 hvalue
    exact Node.nullableText?_of_str hnode
  · intro hnone
    exact (Option.map_eq_none_iff.1 hnone).symm

/-- A list is read again if its items are. -/
theorem list? {α : Type} {decode : Node → Option α} {encode : α → Value} {items : List α}
    (h : Stand fields entries)
    (hentry : Entries.get? name entries = listUnlessEmpty (items.map encode))
    (hitem : ∀ item ∈ items, ∀ node, Value.ofNode node = .ok (encode item) →
      decode node = some item) :
    Yaml.optionalOnce? (Node.list? decode) [] fields name = some items := by
  refine h.optionalOnce? ?_ ?_ <;> rw [hentry, listUnlessEmpty]
  · intro value hvalue node hnode
    split at hvalue
    · cases hvalue
    obtain rfl := Option.some.inj hvalue
    obtain ⟨nodes, hnodes, hlist⟩ := Node.exists_items_of_seq hnode
    rw [hlist, mapM_eq_some_iff]
    have hitems := (List.forall₂_and_left items nodes).2
      ⟨hitem, (List.forall₂_map_right_iff.1 hnodes).flip⟩
    exact (hitems.imp fun item node hboth => hboth.1 node hboth.2).flip
  · intro hnone
    split at hnone
    · rename_i hempty
      exact (List.map_eq_nil_iff.1 (List.isEmpty_iff.1 hempty)).symm
    · cases hnone

/-- A map of texts is read again. -/
theorem textMap? {map : StringMap} (h : Stand fields entries)
    (hentry : Entries.get? name entries = mapUnlessEmpty map) :
    Yaml.optionalOnce? Node.textMap? .empty fields name = some map := by
  refine h.optionalOnce? ?_ ?_ <;> rw [hentry, mapUnlessEmpty]
  · intro value hvalue node hnode
    split at hvalue
    · cases hvalue
    obtain rfl := Option.some.inj hvalue
    exact Node.textMap?_of_texts hnode
  · intro hnone
    split at hnone
    · rename_i hempty
      rw [← SortedMap.ofList_entries map, List.isEmpty_iff.1 hempty]
      rfl
    · cases hnone

end Stand

end Yaml

end Reconciler
