import Reconciler.Proofs.Yaml.Record
/-!
What is kept of a document.  A shape says what is done with a node: it is kept as it is, or passed
over, or a text is taken from it, or the same is done with its items or with its fields, each in its
own way.  What is kept of a document is the value of a document again.
-/
namespace Reconciler.Yaml

/-- A document that consists of what JSON has: there are no tags, and keys are strings. -/
inductive Node.JsonLike : Node → Prop
  | scalar (text : String) (plain : Bool) : JsonLike (.scalar none text plain)
  | sequence {items : List Node} (each : ∀ item ∈ items, JsonLike item) :
      JsonLike (.sequence none items)
  | mapping {pairs : List (Node × Node)}
      (keys : ∀ pair ∈ pairs, ∃ name, Value.ofNode pair.1 = .ok (.str name))
      (each : ∀ pair ∈ pairs, JsonLike pair.2) : JsonLike (.mapping none pairs)

/-- A document that consists of what JSON has, and that has a value. -/
structure Node.Sound (node : Node) : Prop where
  jsonLike : node.JsonLike
  valued : ∃ value, Value.ofNode node = .ok value

/-- Fields with names of their own, which consist of what JSON has. -/
structure SoundFields (fields : List (String × Node)) : Prop where
  nodup : (fields.map (·.1)).Nodup
  sound : ∀ field ∈ fields, field.2.Sound

/-- The items of a list, which is empty if nothing is written. -/
def Node.items? (node : Node) : Option (List Node) :=
  node.list? some

/-- Whether a text is written for a scalar: the one that it is written as, and so the same string
if it is a string. -/
def Node.Spells (node : Node) (written : Option Value) : Prop :=
  ∃ tag text plain, node = .scalar tag text plain ∧ written = some (.str text) ∧
    ∀ string, Value.ofNode node = .ok (.str string) → string = text

/-- A mapping whose keys are texts, unless it is empty. -/
def namedUnlessEmpty (entries : List (String × Value)) : Option Value :=
  if entries.isEmpty then none else some (.named entries)

/-- What is done with a node. -/
inductive Shape where
  /-- It is kept. -/
  | any
  /-- It is passed over. -/
  | dropped
  /-- It is taken for a text. -/
  | text
  /-- It is taken for a text, or left out if it is null. -/
  | nullable
  /-- Something is done with each of its items, and it is left out if there are none. -/
  | list (item : Shape)
  /-- Something is done with each of its fields, and it is left out if nothing is left of them. -/
  | record (field : String → Shape)

/-- Whether a value is what is kept of a node, or nothing is. -/
def Shape.Keeps : Shape → Node → Option Value → Prop
  | .any, node, written => ∃ value, Value.ofNode node = .ok value ∧ written = some value
  | .dropped, _, written => written = none
  | .text, node, written => node.Spells written
  | .nullable, node, written =>
    (Value.ofNode node = .ok .null → written = none) ∧
      (Value.ofNode node ≠ .ok .null → node.Spells written)
  | .list item, node, written =>
    ∃ nodes values, node.items? = some nodes ∧ written = listUnlessEmpty values ∧
      List.Forall₂ (fun node value => item.Keeps node (some value)) nodes values
  | .record field, node, written =>
    ∃ fields entries, node.fields? = some fields ∧ written = namedUnlessEmpty entries ∧
      (entries.map (·.1)).Nodup ∧
      ∀ name, match Entries.get? name fields with
        | some node => (field name).Keeps node (Entries.get? name entries)
        | none => Entries.get? name entries = none

namespace Node

variable {node : Node} {fields : List (String × Node)} {items : List Node}

theorem exists_entries_of_ofPairs {nodes : List (Node × Node)} {pairs : List (Value × Value)}
    (hkeys : ∀ pair ∈ nodes, ∃ name, Value.ofNode pair.1 = .ok (.str name))
    (h : Value.ofPairs nodes = .ok pairs) :
    ∃ entries : List (String × Value),
      pairs = entries.map fun entry => (.str entry.1, entry.2) := by
  induction nodes generalizing pairs with
  | nil => exact ⟨[], (Except.ok.inj h).symm⟩
  | cons node nodes ih =>
      obtain ⟨⟨name, hname⟩, hkeys⟩ := List.forall_mem_cons.1 hkeys
      rw [Value.ofPairs] at h
      obtain ⟨key, hkey, h⟩ := Except.bind_eq_ok_iff.1 h
      obtain rfl := Except.ok.inj (hkey.symm.trans hname)
      obtain ⟨value, -, h⟩ := Except.bind_eq_ok_iff.1 h
      obtain ⟨rest, hnodes, h⟩ := Except.bind_eq_ok_iff.1 h
      obtain ⟨entries, rfl⟩ := ih hkeys hnodes
      rw [Value.addPair_named] at h
      split at h
      · cases h
      · exact ⟨_, (Except.ok.inj h).symm⟩

theorem Sound.of_fields? (h : node.Sound) (hfields : node.fields? = some fields) :
    SoundFields fields := by
  obtain ⟨hjson, value, hvalue⟩ := h
  cases hjson with
  | scalar text plain =>
      rw [fields?] at hfields
      split at hfields
      · obtain rfl := Option.some.inj hfields
        exact ⟨List.nodup_nil, by simp⟩
      · cases hfields
      · simp
  | sequence => cases hfields
  | @mapping pairs hkeys heach =>
      obtain ⟨held, hheld, -⟩ := Except.map_eq_ok_iff.1 hvalue
      obtain ⟨entries, rfl⟩ := exists_entries_of_ofPairs hkeys hheld
      obtain ⟨hall, hnodup⟩ := Value.ofPairs_eq_ok_iff.1 hheld
      obtain ⟨others, hothers, hstand⟩ := exists_fields_of_pairs hall
      obtain rfl := Option.some.inj (hfields.symm.trans hothers)
      refine ⟨Stand.nodup_fields ⟨hstand, hnodup⟩, fun field hfield => ?_⟩
      obtain ⟨pair, hpair, hname⟩ := exists_mem_of_forall₂ (mapM_eq_some_iff.1 hfields) hfield
      obtain ⟨name, -, rfl⟩ := Option.map_eq_some_iff.1 hname
      obtain ⟨entry, -, -, hentry⟩ := exists_mem_of_forall₂ hstand.flip hfield
      exact ⟨heach pair hpair, entry.2, hentry⟩

theorem list?_eq {α : Type} (decode : Node → Option α) (node : Node) :
    node.list? decode = node.items?.bind (List.mapM decode) := by
  rcases node with ⟨tag, text, plain⟩ | ⟨tag, items⟩ | ⟨tag, pairs⟩
  · simp only [items?, list?]
    split <;> rfl
  · have hself : items.mapM some = some items :=
      mapM_eq_some_iff.2 (List.forall₂_same.2 fun _ _ => rfl)
    simp only [items?, list?, hself, Option.bind_some]
  · rfl

theorem Sound.of_items? (h : node.Sound) (hitems : node.items? = some items) :
    ∀ item ∈ items, item.Sound := by
  obtain ⟨hjson, value, hvalue⟩ := h
  cases hjson with
  | scalar text plain =>
      rw [items?, list?] at hitems
      split at hitems
      · obtain rfl := Option.some.inj hitems
        simp
      · cases hitems
      · simp
  | @sequence nodes heach =>
      obtain ⟨values, hvalues, -⟩ := Except.map_eq_ok_iff.1 hvalue
      intro item hitem
      obtain ⟨node, hnode, hsame⟩ := exists_mem_of_forall₂ (mapM_eq_some_iff.1 hitems) hitem
      obtain rfl := Option.some.inj hsame
      obtain ⟨value, -, hvalue⟩ :=
        exists_mem_of_forall₂ (Value.ofNodes_eq_ok_iff.1 hvalues).flip hnode
      exact ⟨heach node hnode, value, hvalue⟩
  | mapping => cases hitems

end Node

namespace Shape

variable {node : Node} {written : Option Value} {shape : Shape}

theorem keeps_any {value : Value} (h : node.value? = some value) : any.Keeps node (some value) :=
  ⟨value, Node.value?_eq_some_iff.1 h, rfl⟩

theorem spells_of_text? {text : String} (h : node.text? = some text) :
    node.Spells (some (.str text)) := by
  rcases node with ⟨tag, found, plain⟩ | _ | _
  · obtain rfl := Option.some.inj h
    refine ⟨tag, found, plain, rfl, rfl, fun string hstring => ?_⟩
    obtain ⟨_, _, hsame, -⟩ := Node.exists_scalar hstring
    exact (Node.scalar.inj hsame).2.1.symm
  · cases h
  · cases h

theorem keeps_nullable {text : Option String} (hnode : node.JsonLike)
    (h : node.nullableText? = some text) : nullable.Keeps node (text.map .str) := by
  cases hnode with
  | sequence => cases h
  | mapping => cases h
  | scalar found plain =>
      have hspells : (Node.scalar none found plain).Spells (some (.str found)) :=
        spells_of_text? rfl
      cases plain with
      | false =>
          obtain rfl := Option.some.inj h
          exact ⟨(fun hnull => nomatch hnull), fun _ => hspells⟩
      | true =>
          have hnull : Value.ofNode (.scalar none found true) = .ok .null ↔
              (found.isEmpty || Scalar.isNull found) = true := Scalar.resolve_eq_null_iff
          simp only [Keeps, ne_eq, hnull]
          simp only [Node.nullableText?] at h
          split at h <;> obtain rfl := Option.some.inj h
          · exact ⟨fun _ => rfl, fun hother => absurd ‹_› hother⟩
          · exact ⟨fun hother => absurd hother ‹_›, fun _ => hspells⟩

theorem keeps_list {α : Type} {decode : Node → Option α} {encode : α → Value} {items : List α}
    (hnode : node.Sound) (h : node.list? decode = some items)
    (hitem : ∀ node item, node.Sound → decode node = some item →
      shape.Keeps node (some (encode item))) :
    (list shape).Keeps node (listUnlessEmpty (items.map encode)) := by
  rw [Node.list?_eq] at h
  obtain ⟨nodes, hnodes, hitems⟩ := Option.bind_eq_some_iff.1 h
  refine ⟨nodes, _, hnodes, rfl, ?_⟩
  rw [List.forall₂_map_right_iff]
  have hall := (List.forall₂_and_left nodes items).2
    ⟨hnode.of_items? hnodes, mapM_eq_some_iff.1 hitems⟩
  exact hall.imp fun node item hboth => hitem node item hboth.1 hboth.2

/-- A map of texts is kept if no name stands twice. -/
theorem keeps_textMap {map : StringMap} (hnode : node.Sound) (h : node.textMap? = some map) :
    (record fun _ => text).Keeps node (mapUnlessEmpty map) := by
  obtain ⟨fields, hfields, h⟩ := Option.bind_eq_some_iff.1 h
  obtain ⟨texts, htexts, h⟩ := Option.bind_eq_some_iff.1 h
  obtain rfl := Option.some.inj h
  have hkeys := (hnode.of_fields? hfields).nodup
  have hall : List.Forall₂ (fun field entry => field.1 = entry.1 ∧ field.2.text? = some entry.2)
      fields texts := by
    refine (mapM_eq_some_iff.1 htexts).imp fun field entry hentry => ?_
    obtain ⟨text, htext, rfl⟩ := Option.map_eq_some_iff.1 hentry
    exact ⟨rfl, htext⟩
  have hsame : fields.map (·.1) = texts.map (·.1) :=
    Entries.keys_eq (fun node text => Node.text? node = some text) hall
  refine ⟨fields, (SortedMap.ofList texts).entries.map fun entry => (entry.1, .str entry.2),
    hfields, ?_, ?_, fun name => ?_⟩
  · simp [mapUnlessEmpty, namedUnlessEmpty, Value.named, Function.comp_def]
  · rw [List.map_map]
    exact Entries.nodup_keys (SortedMap.ofList texts).sorted
  · rw [Entries.get?_map, SortedMap.ofList, Entries.get?_ofList (hsame ▸ hkeys)]
    have hrel := Entries.rel_get? (fun node text => Node.text? node = some text) hall name
    generalize Entries.get? name fields = field at hrel ⊢
    generalize Entries.get? name texts = found at hrel ⊢
    cases hrel with
    | none => rfl
    | some htext => exact spells_of_text? htext

/-- Whether a value is what is kept of a field, which may be absent. -/
def KeepsField (shape : Shape) (found : Option Node) (written : Option Value) : Prop :=
  match found with
  | some node => shape.Keeps node written
  | none => written = none

section

variable {fields : List (String × Node)} {name : String}

theorem keepsField_required {string : String} (hfields : SoundFields fields)
    (h : requiredOnce? Node.text? fields name = some string) :
    text.KeepsField (Entries.get? name fields) (some (.str string)) := by
  rw [requiredOnce?_eq hfields.nodup] at h
  obtain ⟨node, hnode, htext⟩ := Option.bind_eq_some_iff.1 h
  rw [hnode]
  exact spells_of_text? htext

theorem keepsField_optional {α : Type} {decode : Node → Option α} {absent value : α}
    (hfields : SoundFields fields) (h : optionalOnce? decode absent fields name = some value)
    (hkeeps : ∀ node, node.Sound → decode node = some value → shape.Keeps node written)
    (habsent : absent = value → written = none) :
    shape.KeepsField (Entries.get? name fields) written := by
  rw [optionalOnce?_eq hfields.nodup] at h
  rcases hnode : Entries.get? name fields with _ | node <;> rw [hnode] at h
  · exact habsent (Option.some.inj h)
  · have hfield := (Entries.get?_eq_some_iff_of_nodup hfields.nodup).1 hnode
    exact hkeeps node (hfields.sound _ hfield) h

theorem keepsField_nullable {string : Option String} (hfields : SoundFields fields)
    (h : optionalOnce? Node.nullableText? none fields name = some string) :
    nullable.KeepsField (Entries.get? name fields) (string.map .str) := by
  refine keepsField_optional hfields h (fun node hnode htext => ?_) ?_
  · exact keeps_nullable hnode.jsonLike htext
  · rintro rfl
    rfl

theorem keepsField_list {α : Type} {decode : Node → Option α} {encode : α → Value} {items : List α}
    (hfields : SoundFields fields)
    (h : optionalOnce? (Node.list? decode) [] fields name = some items)
    (hitem : ∀ node item, node.Sound → decode node = some item →
      shape.Keeps node (some (encode item))) :
    (list shape).KeepsField (Entries.get? name fields) (listUnlessEmpty (items.map encode)) := by
  refine keepsField_optional hfields h (fun node hnode hitems => ?_) ?_
  · exact keeps_list hnode hitems hitem
  · rintro rfl
    rfl

theorem keepsField_textMap {map : StringMap} (hfields : SoundFields fields)
    (h : optionalOnce? Node.textMap? .empty fields name = some map) :
    (record fun _ => text).KeepsField (Entries.get? name fields) (mapUnlessEmpty map) := by
  refine keepsField_optional hfields h (fun node hnode hmap => ?_) ?_
  · exact keeps_textMap hnode hmap
  · rintro rfl
    rfl

end

/-- A record is kept if each of its parts is, and what is written behind them is what is kept of
other fields. -/
theorem keeps_record {field : String → Shape} {fields : List (String × Node)}
    {parts : List (String × Option Value)} {others : List (String × Value)}
    (hfields : node.fields? = some fields)
    (hkeys : (parts.map (·.1) ++ others.map (·.1)).Nodup)
    (hparts : ∀ part ∈ parts, (field part.1).KeepsField (Entries.get? part.1 fields) part.2)
    (hothers : ∀ name, name ∉ parts.map (·.1) →
      (field name).KeepsField (Entries.get? name fields) (Entries.get? name others)) :
    (record field).Keeps node (namedUnlessEmpty (entriesOf parts ++ others)) := by
  refine ⟨fields, entriesOf parts ++ others, hfields, rfl, nodup_keys_entriesOf hkeys,
    fun name => ?_⟩
  change (field name).KeepsField (Entries.get? name fields)
    (Entries.get? name (entriesOf parts ++ others))
  by_cases hname : name ∈ parts.map (·.1)
  · obtain ⟨part, hpart, rfl⟩ := List.mem_map.1 hname
    rw [get?_entriesOf_append hkeys hpart]
    exact hparts part hpart
  · rw [Entries.get?_append, get?_entriesOf_of_not_mem hname, Option.none_or]
    exact hothers name hname

/-- What is kept of a document is the value of a document. -/
theorem Keeps.exists_node {value : Value} (h : shape.Keeps node (some value)) :
    ∃ again, Value.ofNode again = .ok value := by
  induction shape generalizing node value with
  | any =>
      obtain ⟨found, hfound, hsame⟩ := h
      exact ⟨node, hfound.trans (congrArg _ (Option.some.inj hsame).symm)⟩
  | dropped => cases h
  | text =>
      obtain ⟨tag, text, plain, -, hsame, -⟩ := h
      exact ⟨.scalar none text false, congrArg Except.ok (Option.some.inj hsame).symm⟩
  | nullable =>
      by_cases hnull : Value.ofNode node = .ok .null
      · cases h.1 hnull
      · obtain ⟨tag, text, plain, -, hsame, -⟩ := h.2 hnull
        exact ⟨.scalar none text false, congrArg Except.ok (Option.some.inj hsame).symm⟩
  | list item ih =>
      obtain ⟨nodes, values, -, hsame, hall⟩ := h
      rw [listUnlessEmpty] at hsame
      split at hsame
      · cases hsame
      obtain rfl := Option.some.inj hsame
      obtain ⟨again, hagain⟩ := exists_forall₂ fun value hvalue => by
        obtain ⟨node, -, hnode⟩ := exists_mem_of_forall₂ hall hvalue
        exact ih hnode
      refine ⟨.sequence none again, ?_⟩
      change (Value.ofNodes again).map Value.seq = _
      rw [Value.ofNodes_eq_ok_iff.2 hagain]
      rfl
  | record field ih =>
      obtain ⟨fields, entries, -, hsame, hkeys, hall⟩ := h
      rw [namedUnlessEmpty] at hsame
      split at hsame
      · cases hsame
      obtain rfl := Option.some.inj hsame
      have heach : ∀ entry ∈ entries, ∃ pair : Node × Node,
          Value.ofNode pair.1 = .ok (.str entry.1) ∧ Value.ofNode pair.2 = .ok entry.2 := by
        intro entry hentry
        have hheld := hall entry.1
        rw [(Entries.get?_eq_some_iff_of_nodup hkeys).2 hentry] at hheld
        split at hheld
        · obtain ⟨again, hagain⟩ := ih entry.1 hheld
          exact ⟨(.scalar none entry.1 false, again), rfl, hagain⟩
        · cases hheld
      obtain ⟨again, hagain⟩ := exists_forall₂ heach
      refine ⟨.mapping none again, ?_⟩
      change (Value.ofPairs again).map Value.map = _
      rw [Value.ofPairs_eq_ok_iff.2 ⟨hagain, hkeys⟩]
      rfl

end Shape

end Reconciler.Yaml
