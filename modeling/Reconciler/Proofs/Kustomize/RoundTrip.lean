import Reconciler.Proofs.Yaml.Shape
/-!
Kustomizations that are written and read again.  What is written of a document that was read has its
fields, each kept in its own way: what is structured is read for what it is, and everything else is
kept as it is.  Whoever reads it again gets the same kustomization.
-/
namespace Reconciler

open Yaml

namespace ImageOverride

variable {node : Node} {fields : List (String × Node)} {image : ImageOverride}

/-- What is kept of a field of a change of an image. -/
def fieldShape (name : String) : Shape :=
  if name = "name" then .text
  else if name ∈ ["newName", "newTag", "digest"] then .nullable
  else .dropped

/-- What is kept of a change of an image. -/
def shape : Shape :=
  .record fieldShape

/-- The parts of a change of an image, in the order in which they are written. -/
def parts (image : ImageOverride) : List (String × Option Value) :=
  [("name", some (.str image.name)), ("newName", image.newName.map .str),
    ("newTag", image.newTag.map .str), ("digest", image.digest.map .str)]

theorem toYaml_eq (image : ImageOverride) : image.toYaml = .named (entriesOf image.parts) := by
  rw [Value.named, map_entriesOf]
  simp [toYaml, parts, setField]

theorem nodup_parts (image : ImageOverride) : (image.parts.map (·.1)).Nodup := by
  change ["name", "newName", "newTag", "digest"].Nodup
  decide

/-- A change of an image is the one with some fields. -/
structure ReadFrom (fields : List (String × Node)) (image : ImageOverride) : Prop where
  name : requiredOnce? Node.text? fields "name" = some image.name
  newName : optionalOnce? Node.nullableText? none fields "newName" = some image.newName
  newTag : optionalOnce? Node.nullableText? none fields "newTag" = some image.newTag
  digest : optionalOnce? Node.nullableText? none fields "digest" = some image.digest

theorem ofFields?_eq_some_iff :
    ofFields? Node.text? Node.nullableText? fields = some image ↔ ReadFrom fields image := by
  constructor
  · intro h
    obtain ⟨name, hname, h⟩ := Option.bind_eq_some_iff.1 h
    obtain ⟨newName, hnewName, h⟩ := Option.bind_eq_some_iff.1 h
    obtain ⟨newTag, hnewTag, h⟩ := Option.bind_eq_some_iff.1 h
    obtain ⟨digest, hdigest, h⟩ := Option.bind_eq_some_iff.1 h
    cases h
    exact ⟨hname, hnewName, hnewTag, hdigest⟩
  · intro h
    refine Option.bind_eq_of_eq_some _ h.name ?_
    refine Option.bind_eq_of_eq_some _ h.newName ?_
    refine Option.bind_eq_of_eq_some _ h.newTag ?_
    exact Option.bind_eq_of_eq_some _ h.digest rfl

/-- A change of an image is read again from what it is written as. -/
theorem ofNode?_of_toYaml (h : Value.ofNode node = .ok image.toYaml) :
    ofNode? node = some image := by
  rw [toYaml_eq] at h
  obtain ⟨fields, hfields, hstand⟩ := Node.exists_fields_of_named h
  have hentry : ∀ {name : String} {value : Option Value}, (name, value) ∈ image.parts →
      Entries.get? name (entriesOf image.parts) = value := get?_entriesOf image.nodup_parts
  refine Option.bind_eq_of_eq_some _ hfields (ofFields?_eq_some_iff.2 ?_)
  exact
    { name := hstand.requiredText? (hentry (by simp [parts]))
      newName := hstand.nullableText? (hentry (by simp [parts]))
      newTag := hstand.nullableText? (hentry (by simp [parts]))
      digest := hstand.nullableText? (hentry (by simp [parts])) }

/-- Of a change of an image everything is kept but unknown fields. -/
theorem keeps (hnode : node.Sound) (h : ofNode? node = some image) :
    shape.Keeps node (some image.toYaml) := by
  obtain ⟨fields, hfields, h⟩ := Option.bind_eq_some_iff.1 h
  have hsound := hnode.of_fields? hfields
  have hread := ofFields?_eq_some_iff.1 h
  have hwritten : namedUnlessEmpty (entriesOf image.parts ++ []) = some image.toYaml := by
    rw [toYaml_eq, List.append_nil]
    rfl
  rw [← hwritten]
  refine Shape.keeps_record hfields (by simpa using image.nodup_parts) ?_ fun name hname => ?_
  · intro part hpart
    simp only [parts, List.mem_cons, List.not_mem_nil, or_false] at hpart
    rcases hpart with rfl | rfl | rfl | rfl
    · exact Shape.keepsField_required hsound hread.name
    · exact Shape.keepsField_nullable hsound hread.newName
    · exact Shape.keepsField_nullable hsound hread.newTag
    · exact Shape.keepsField_nullable hsound hread.digest
  · have hdropped : fieldShape name = .dropped := by
      simp only [parts, List.map_cons, List.map_nil, List.mem_cons, List.not_mem_nil, or_false,
        not_or] at hname
      simp [fieldShape, hname]
    rw [hdropped]
    cases Entries.get? name fields <;> rfl

end ImageOverride

namespace Kustomization

variable {document : Node} {fields : List (String × Node)} {kustomization : Kustomization}

/-- What is kept of a field of a kustomization. -/
def fieldShape (name : String) : Shape :=
  if name ∈ ["apiVersion", "kind"] then .text
  else if name ∈ ["namespace", "namePrefix", "nameSuffix"] then .nullable
  else if name ∈ ["resources", "components"] then .list .text
  else if name ∈ ["commonLabels", "commonAnnotations"] then .record fun _ => .text
  else if name = "patches" then .list .any
  else if name = "images" then .list ImageOverride.shape
  else .any

/-- What is kept of a kustomization. -/
def shape : Shape :=
  .record fieldShape

/-- The structured parts of a kustomization, in the order in which they are written. -/
def parts (kustomization : Kustomization) : List (String × Option Value) :=
  [("apiVersion", some (.str kustomization.apiVersion)),
    ("kind", some (.str kustomization.kind)),
    ("namespace", kustomization.namespaceName.map .str),
    ("namePrefix", kustomization.namePrefix.map .str),
    ("nameSuffix", kustomization.nameSuffix.map .str),
    ("resources", listUnlessEmpty (kustomization.resources.map .str)),
    ("components", listUnlessEmpty (kustomization.components.map .str)),
    ("commonLabels", mapUnlessEmpty kustomization.commonLabels),
    ("commonAnnotations", mapUnlessEmpty kustomization.commonAnnotations),
    ("patches", listUnlessEmpty (kustomization.patches.map id)),
    ("images", listUnlessEmpty (kustomization.images.map ImageOverride.toYaml))]

theorem keys_parts (kustomization : Kustomization) :
    kustomization.parts.map (·.1) = fieldNames := rfl

theorem nodup_fieldNames : fieldNames.Nodup := by decide

/-- The entries that are written: the structured parts, and everything else behind them. -/
def entries (kustomization : Kustomization) : List (String × Value) :=
  entriesOf kustomization.parts ++ kustomization.extra.entries

theorem toYaml_eq (kustomization : Kustomization) :
    kustomization.toYaml = .named kustomization.entries := by
  rw [Value.named, entries, List.map_append, map_entriesOf]
  simp [toYaml, parts]

/-- The fields that are not structured. -/
def others {β : Type} (fields : List (String × β)) : List (String × β) :=
  fields.filter fun field => field.1 ∉ fieldNames

/-- A kustomization is the one with some fields. -/
structure ReadFrom (fields : List (String × Node)) (kustomization : Kustomization) : Prop where
  apiVersion : requiredOnce? Node.text? fields "apiVersion" = some kustomization.apiVersion
  kind : requiredOnce? Node.text? fields "kind" = some kustomization.kind
  namespaceName : optionalOnce? Node.nullableText? none fields "namespace" =
    some kustomization.namespaceName
  namePrefix : optionalOnce? Node.nullableText? none fields "namePrefix" =
    some kustomization.namePrefix
  nameSuffix : optionalOnce? Node.nullableText? none fields "nameSuffix" =
    some kustomization.nameSuffix
  resources : optionalOnce? (Node.list? Node.text?) [] fields "resources" =
    some kustomization.resources
  components : optionalOnce? (Node.list? Node.text?) [] fields "components" =
    some kustomization.components
  commonLabels : optionalOnce? Node.textMap? .empty fields "commonLabels" =
    some kustomization.commonLabels
  commonAnnotations : optionalOnce? Node.textMap? .empty fields "commonAnnotations" =
    some kustomization.commonAnnotations
  patches : optionalOnce? (Node.list? Node.value?) [] fields "patches" =
    some kustomization.patches
  images : optionalOnce? (Node.list? ImageOverride.ofNode?) [] fields "images" =
    some kustomization.images
  extra : ∃ pairs, (others fields).mapM (fun field =>
      (field.2.value?.filter Value.isUntagged).map (field.1, ·)) = some pairs ∧
    kustomization.extra = .ofList pairs

theorem ofFields?_eq_some_iff :
    ofFields? yamlForm fields = some kustomization ↔ ReadFrom fields kustomization := by
  constructor
  · intro h
    obtain ⟨apiVersion, hapiVersion, h⟩ := Option.bind_eq_some_iff.1 h
    obtain ⟨kind, hkind, h⟩ := Option.bind_eq_some_iff.1 h
    obtain ⟨namespaceName, hnamespaceName, h⟩ := Option.bind_eq_some_iff.1 h
    obtain ⟨namePrefix, hnamePrefix, h⟩ := Option.bind_eq_some_iff.1 h
    obtain ⟨nameSuffix, hnameSuffix, h⟩ := Option.bind_eq_some_iff.1 h
    obtain ⟨resources, hresources, h⟩ := Option.bind_eq_some_iff.1 h
    obtain ⟨components, hcomponents, h⟩ := Option.bind_eq_some_iff.1 h
    obtain ⟨commonLabels, hcommonLabels, h⟩ := Option.bind_eq_some_iff.1 h
    obtain ⟨commonAnnotations, hcommonAnnotations, h⟩ := Option.bind_eq_some_iff.1 h
    obtain ⟨patches, hpatches, h⟩ := Option.bind_eq_some_iff.1 h
    obtain ⟨images, himages, h⟩ := Option.bind_eq_some_iff.1 h
    obtain ⟨pairs, hpairs, h⟩ := Option.bind_eq_some_iff.1 h
    cases h
    exact ⟨hapiVersion, hkind, hnamespaceName, hnamePrefix, hnameSuffix, hresources, hcomponents,
      hcommonLabels, hcommonAnnotations, hpatches, himages, pairs, hpairs, rfl⟩
  · intro h
    obtain ⟨pairs, hpairs, hextra⟩ := h.extra
    refine Option.bind_eq_of_eq_some _ h.apiVersion ?_
    refine Option.bind_eq_of_eq_some _ h.kind ?_
    refine Option.bind_eq_of_eq_some _ h.namespaceName ?_
    refine Option.bind_eq_of_eq_some _ h.namePrefix ?_
    refine Option.bind_eq_of_eq_some _ h.nameSuffix ?_
    refine Option.bind_eq_of_eq_some _ h.resources ?_
    refine Option.bind_eq_of_eq_some _ h.components ?_
    refine Option.bind_eq_of_eq_some _ h.commonLabels ?_
    refine Option.bind_eq_of_eq_some _ h.commonAnnotations ?_
    refine Option.bind_eq_of_eq_some _ h.patches ?_
    refine Option.bind_eq_of_eq_some _ h.images ?_
    refine Option.bind_eq_of_eq_some _ hpairs ?_
    rw [← hextra]
    rfl

theorem get?_others {β : Type} (name : String) (fields : List (String × β)) :
    Entries.get? name (others fields) =
      if name ∈ fieldNames then none else Entries.get? name fields := by
  induction fields with
  | nil => simp [others]
  | cons field rest ih =>
      by_cases hsame : compare name field.1 = .eq
      · obtain rfl := Std.LawfulEqOrd.eq_of_compare hsame
        by_cases hname : field.1 ∈ fieldNames
        · simpa [others, hname] using ih
        · simp [others, hname, Entries.get?]
      · by_cases hname : field.1 ∈ fieldNames <;>
          simpa [others, hname, Entries.get?, hsame] using ih

/-- Everything else is what is under the other names. -/
theorem ReadFrom.rel_extra (h : ReadFrom fields kustomization) (hkeys : (fields.map (·.1)).Nodup)
    (name : String) :
    Option.Rel (fun node value => node.value?.filter Value.isUntagged = some value)
      (if name ∈ fieldNames then none else Entries.get? name fields)
      (kustomization.extra.get? name) := by
  obtain ⟨pairs, hpairs, hextra⟩ := h.extra
  have hall : List.Forall₂ (fun field pair => field.1 = pair.1 ∧
      (Node.value? field.2).filter Value.isUntagged = some pair.2) (others fields) pairs := by
    refine (mapM_eq_some_iff.1 hpairs).imp fun field pair hpair => ?_
    obtain ⟨value, hvalue, rfl⟩ := Option.map_eq_some_iff.1 hpair
    exact ⟨rfl, hvalue⟩
  have hnodup : (pairs.map (·.1)).Nodup := by
    rw [← Entries.keys_eq
      (fun node value => (Node.value? node).filter Value.isUntagged = some value) hall]
    exact (List.filter_sublist.map _).nodup hkeys
  have hget : kustomization.extra.get? name = Entries.get? name pairs := by
    rw [hextra]
    exact Entries.get?_ofList hnodup name
  rw [hget, ← get?_others]
  exact Entries.rel_get? (fun node value => (Node.value? node).filter Value.isUntagged = some value)
    hall name

/-- A kustomization of which nothing else has the name of a structured part or carries a tag. -/
structure Apart (kustomization : Kustomization) : Prop where
  nodup : (kustomization.parts.map (·.1) ++ kustomization.extra.entries.map (·.1)).Nodup
  untagged : ∀ entry ∈ kustomization.extra.entries, entry.2.isUntagged = true

theorem ReadFrom.apart (h : ReadFrom fields kustomization) (hkeys : (fields.map (·.1)).Nodup) :
    Apart kustomization where
  nodup := by
    refine List.Nodup.append nodup_fieldNames (Entries.nodup_keys kustomization.extra.sorted) ?_
    intro name hname hextra
    obtain ⟨entry, hentry, rfl⟩ := List.mem_map.1 hextra
    have hrel := h.rel_extra hkeys entry.1
    rw [if_pos (show entry.1 ∈ fieldNames from hname),
      SortedMap.get?_eq_some_iff.2 hentry] at hrel
    cases hrel
  untagged entry hentry := by
    have hrel := h.rel_extra hkeys entry.1
    rw [SortedMap.get?_eq_some_iff.2 hentry] at hrel
    generalize (if entry.1 ∈ fieldNames then none else Entries.get? entry.1 fields) = found at hrel
    cases hrel with
    | some hvalue => exact (Option.filter_eq_some_iff.1 hvalue).2

theorem Apart.get?_entries (h : Apart kustomization) {name : String} {value : Option Value}
    (hpart : (name, value) ∈ kustomization.parts) :
    Entries.get? name kustomization.entries = value :=
  get?_entriesOf_append h.nodup hpart

theorem Apart.others_entries (h : Apart kustomization) :
    others kustomization.entries = kustomization.extra.entries := by
  have hparts : others (entriesOf kustomization.parts) = [] := by
    rw [others, List.filter_eq_nil_iff]
    intro entry hentry
    have hname : entry.1 ∈ fieldNames :=
      (sublist_keys_entriesOf kustomization.parts).subset (List.mem_map.2 ⟨entry, hentry, rfl⟩)
    simpa using hname
  have hextra : others kustomization.extra.entries = kustomization.extra.entries := by
    rw [others, List.filter_eq_self]
    intro entry hentry
    have hname : entry.1 ∉ fieldNames := fun hname =>
      (List.disjoint_of_nodup_append h.nodup) hname (List.mem_map.2 ⟨entry, hentry, rfl⟩)
    simpa using hname
  rw [entries, others, List.filter_append, ← others, ← others, hparts, hextra, List.nil_append]

theorem forall₂_others {entries : List (String × Value)} (h : Stand fields entries) :
    List.Forall₂ (fun field entry => field.1 = entry.1 ∧ Value.ofNode field.2 = .ok entry.2)
      (others fields) (others entries) := by
  refine List.rel_filter (fun field entry hsame => ?_) h.each
  simp only [hsame.1]

theorem Apart.exists_pairs (h : Apart kustomization) (hstand : Stand fields kustomization.entries) :
    ∃ pairs, (others fields).mapM (fun field =>
        (field.2.value?.filter Value.isUntagged).map (field.1, ·)) = some pairs ∧
      kustomization.extra = .ofList pairs := by
  refine ⟨kustomization.extra.entries, mapM_eq_some_iff.2 ?_,
    (SortedMap.ofList_entries kustomization.extra).symm⟩
  have hothers := forall₂_others hstand
  rw [h.others_entries] at hothers
  have hboth := (List.forall₂_and_left _ _).2 ⟨h.untagged, List.Forall₂.flip hothers⟩
  refine (hboth.imp fun entry field hfield => ?_).flip
  obtain ⟨huntagged, hname, hvalue⟩ := hfield
  simp only [flip, Node.value?_eq_some_iff.2 hvalue, Option.filter_some, if_pos huntagged, hname,
    Option.map_some]

/-- A kustomization is read again from what it is written as. -/
theorem Apart.ofNode?_of_toYaml (h : Apart kustomization)
    (hdocument : Value.ofNode document = .ok kustomization.toYaml) :
    ofNode? document = some kustomization := by
  rw [toYaml_eq] at hdocument
  obtain ⟨fields, hfields, hstand⟩ := Node.exists_fields_of_named hdocument
  refine Option.bind_eq_of_eq_some _ hfields (ofFields?_eq_some_iff.2 ?_)
  have hpart : ∀ {name : String} {value : Option Value}, (name, value) ∈ kustomization.parts →
      Entries.get? name kustomization.entries = value := h.get?_entries
  have hpatches : Entries.get? "patches" kustomization.entries =
      listUnlessEmpty (kustomization.patches.map id) := hpart (by simp [parts])
  exact
    { apiVersion := hstand.requiredText? (hpart (by simp [parts]))
      kind := hstand.requiredText? (hpart (by simp [parts]))
      namespaceName := hstand.nullableText? (hpart (by simp [parts]))
      namePrefix := hstand.nullableText? (hpart (by simp [parts]))
      nameSuffix := hstand.nullableText? (hpart (by simp [parts]))
      resources := hstand.list? (hpart (by simp [parts])) fun _ _ _ => Node.text?_of_str
      components := hstand.list? (hpart (by simp [parts])) fun _ _ _ => Node.text?_of_str
      commonLabels := hstand.textMap? (hpart (by simp [parts]))
      commonAnnotations := hstand.textMap? (hpart (by simp [parts]))
      patches := hstand.list? hpatches fun _ _ _ => Node.value?_eq_some_iff.2
      images := hstand.list? (hpart (by simp [parts])) fun _ _ _ =>
        ImageOverride.ofNode?_of_toYaml
      extra := h.exists_pairs hstand }

/-- Of a kustomization everything is kept, each part in its own way. -/
theorem keeps (hdocument : document.Sound) (h : ofNode? document = some kustomization) :
    shape.Keeps document (some kustomization.toYaml) := by
  obtain ⟨fields, hfields, h⟩ := Option.bind_eq_some_iff.1 h
  have hsound := hdocument.of_fields? hfields
  have hread := ofFields?_eq_some_iff.1 h
  have hwritten : namedUnlessEmpty (entriesOf kustomization.parts ++ kustomization.extra.entries) =
      some kustomization.toYaml := by
    rw [toYaml_eq]
    rfl
  rw [← hwritten]
  refine Shape.keeps_record hfields (hread.apart hsound.nodup).nodup ?_ fun name hname => ?_
  · intro part hpart
    simp only [parts, List.mem_cons, List.not_mem_nil, or_false] at hpart
    rcases hpart with rfl | rfl | rfl | rfl | rfl | rfl | rfl | rfl | rfl | rfl | rfl
    · exact Shape.keepsField_required hsound hread.apiVersion
    · exact Shape.keepsField_required hsound hread.kind
    · exact Shape.keepsField_nullable hsound hread.namespaceName
    · exact Shape.keepsField_nullable hsound hread.namePrefix
    · exact Shape.keepsField_nullable hsound hread.nameSuffix
    · exact Shape.keepsField_list hsound hread.resources fun _ _ _ => Shape.spells_of_text?
    · exact Shape.keepsField_list hsound hread.components fun _ _ _ => Shape.spells_of_text?
    · exact Shape.keepsField_textMap hsound hread.commonLabels
    · exact Shape.keepsField_textMap hsound hread.commonAnnotations
    · exact Shape.keepsField_list hsound hread.patches fun _ _ _ => Shape.keeps_any
    · exact Shape.keepsField_list hsound hread.images fun _ _ => ImageOverride.keeps
  · rw [keys_parts] at hname
    have hany : fieldShape name = .any := by
      simp only [fieldNames, List.mem_cons, List.not_mem_nil, or_false, not_or] at hname
      simp [fieldShape, hname]
    have hrel := hread.rel_extra hsound.nodup name
    rw [if_neg hname] at hrel
    rw [hany]
    change Shape.any.KeepsField _ (kustomization.extra.get? name)
    generalize Entries.get? name fields = found at hrel ⊢
    generalize kustomization.extra.get? name = written at hrel ⊢
    cases hrel with
    | none => rfl
    | some hvalue => exact Shape.keeps_any (Option.filter_eq_some_iff.1 hvalue).1

/-- Everything else is what has another name, with its value. -/
theorem get?_extra {held : List (String × Value)}
    (hdocument : Value.ofNode document = .ok (.named held))
    (h : ofNode? document = some kustomization) (name : String) :
    kustomization.extra.get? name =
      if name ∈ fieldNames then none else (Value.named held).get? name := by
  obtain ⟨fields, hfields, h⟩ := Option.bind_eq_some_iff.1 h
  obtain ⟨others, hothers, hstand⟩ := Node.exists_fields_of_named hdocument
  obtain rfl := Option.some.inj (hfields.symm.trans hothers)
  have hrel := (ofFields?_eq_some_iff.1 h).rel_extra hstand.nodup_fields name
  rw [Value.get?_named]
  have hsame := hstand.rel_get? name
  split at hrel
  · rw [if_pos ‹_›]
    generalize kustomization.extra.get? name = written at hrel ⊢
    cases hrel
    rfl
  · rw [if_neg ‹_›]
    generalize Entries.get? name fields = found at hrel hsame
    generalize kustomization.extra.get? name = written at hrel ⊢
    generalize Entries.get? name held = value at hsame ⊢
    cases hrel with
    | none =>
        cases hsame
        rfl
    | some hwritten =>
        cases hsame with
        | some hvalue =>
            have hfound := (Option.filter_eq_some_iff.1 hwritten).1
            rw [Node.value?_eq_some_iff.2 hvalue] at hfound
            exact hfound.symm

theorem read?_of_documents {text : String} {value : Value} {read : Option Kustomization}
    (hnode : ∀ node, Value.ofNode node = .ok value → ofNode? node = read)
    (htext : Value.documents text = [.ok value]) : read? text = read := by
  rw [Value.documents, List.map_eq_singleton_iff] at htext
  obtain ⟨document, hdocuments, hvalue⟩ := htext
  obtain ⟨node, rfl, hnamed⟩ := Except.bind_eq_ok_iff.1 hvalue
  rw [read?, hdocuments]
  exact hnode node hnamed

theorem roundTrips_of_read? (h : read? kustomization.write = some kustomization) :
    kustomization.roundTrips = true := by
  rw [roundTrips, h, Option.any_some, same]
  exact Value.same_self kustomization.toYaml

/-- What is written of a kustomization that was read from a document has the fields of the document,
each kept in its own way, and none twice; everything else has the values of the document.  A
document can hold what is written, and every document and every text that holds it is read as the
same kustomization. -/
theorem document_kept {document : Node} {held : List (String × Value)}
    {kustomization : Kustomization} (hjson : document.JsonLike)
    (hvalue : Value.ofNode document = .ok (.named held))
    (hread : ofNode? document = some kustomization) :
    (∃ fields, document.fields? = some fields ∧ Stand fields held) ∧
    shape.Keeps document (some kustomization.toYaml) ∧
    (∀ name, kustomization.extra.get? name =
      if name ∈ fieldNames then none else (Value.named held).get? name) ∧
    (∃ again, Value.ofNode again = .ok kustomization.toYaml) ∧
    (∀ again, Value.ofNode again = .ok kustomization.toYaml → ofNode? again = some kustomization) ∧
    (∀ text, Value.documents text = [.ok kustomization.toYaml] →
      read? text = some kustomization) := by
  obtain ⟨fields, hfields, hstand⟩ := Node.exists_fields_of_named hvalue
  have hkeeps := keeps ⟨hjson, _, hvalue⟩ hread
  have hagain : ∀ again, Value.ofNode again = .ok kustomization.toYaml →
      ofNode? again = some kustomization := by
    obtain ⟨found, hfound, hfrom⟩ := Option.bind_eq_some_iff.1 hread
    obtain rfl := Option.some.inj (hfields.symm.trans hfound)
    have hapart := (ofFields?_eq_some_iff.1 hfrom).apart hstand.nodup_fields
    exact fun again => hapart.ofNode?_of_toYaml
  exact ⟨⟨fields, hfields, hstand⟩, hkeeps, get?_extra hvalue hread, hkeeps.exists_node, hagain,
    fun text htext => read?_of_documents hagain htext⟩

/-- A document with a number for a text, a text that is null, an empty list, an image with an
unknown field, and something that is not structured. -/
def mixed : Node :=
  .mapping none [(.scalar none "apiVersion" true, .scalar none "1" true),
    (.scalar none "kind" true, .scalar none "Kustomization" true),
    (.scalar none "namespace" true, .scalar none "~" true),
    (.scalar none "resources" true, .sequence none []),
    (.scalar none "images" true, .sequence none [
      .mapping none [(.scalar none "name" true, .scalar none "nginx" true),
        (.scalar none "other" true, .scalar none "x" true)]]),
    (.scalar none "prune" true, .scalar none "true" true)]

theorem jsonLike_mixed : mixed.JsonLike := by
  have himage : (Node.mapping none [(.scalar none "name" true, .scalar none "nginx" true),
      (.scalar none "other" true, .scalar none "x" true)]).JsonLike := by
    refine .mapping ?_ ?_ <;> intro pair hpair <;>
      simp only [List.mem_cons, List.not_mem_nil, or_false] at hpair <;>
      rcases hpair with rfl | rfl
    · exact ⟨_, rfl⟩
    · exact ⟨_, rfl⟩
    · exact .scalar _ _
    · exact .scalar _ _
  refine .mapping ?_ ?_ <;> intro pair hpair <;>
    simp only [List.mem_cons, List.not_mem_nil, or_false] at hpair
  · rcases hpair with rfl | rfl | rfl | rfl | rfl | rfl <;> exact ⟨_, rfl⟩
  · rcases hpair with rfl | rfl | rfl | rfl | rfl | rfl
    · exact .scalar _ _
    · exact .scalar _ _
    · exact .scalar _ _
    · exact .sequence fun item hitem => nomatch hitem
    · exact .sequence fun item hitem => List.mem_singleton.1 hitem ▸ himage
    · exact .scalar _ _

/-- What is read from the mixed document. -/
def mixedRead : Kustomization where
  apiVersion := "1"
  images := [{ name := "nginx" }]
  extra := .ofList [("prune", .bool true)]

theorem document_kept_mixed :
    mixed.JsonLike ∧
    Value.ofNode mixed = .ok (.named [("apiVersion", .int 1), ("kind", .str "Kustomization"),
      ("namespace", .null), ("resources", .seq []),
      ("images", .seq [.named [("name", .str "nginx"), ("other", .str "x")]]),
      ("prune", .bool true)]) ∧
    ofNode? mixed = some mixedRead ∧
    mixedRead.toYaml = .named [("apiVersion", .str "1"), ("kind", .str "Kustomization"),
      ("images", .seq [.named [("name", .str "nginx")]]), ("prune", .bool true)] ∧
    (∃ again, Value.ofNode again = .ok mixedRead.toYaml ∧ ofNode? again = some mixedRead) ∧
    read? mixedRead.write = some mixedRead ∧ mixedRead.roundTrips = true := by
  have hvalue : Value.ofNode mixed = .ok (.named [("apiVersion", .int 1),
      ("kind", .str "Kustomization"), ("namespace", .null), ("resources", .seq []),
      ("images", .seq [.named [("name", .str "nginx"), ("other", .str "x")]]),
      ("prune", .bool true)]) := rfl
  have hread : ofNode? mixed = some mixedRead := rfl
  have hwritten : Value.documents mixedRead.write = [.ok mixedRead.toYaml] := by decide +kernel
  obtain ⟨-, -, -, ⟨again, hholds⟩, hagain, htext⟩ := document_kept jsonLike_mixed hvalue hread
  have hback := htext mixedRead.write hwritten
  exact ⟨jsonLike_mixed, hvalue, hread, rfl, ⟨again, hholds, hagain again hholds⟩, hback,
    roundTrips_of_read? hback⟩

/-- A number in the place of a text is written as a text. -/
theorem number_written_as_text :
    Value.documents "apiVersion: 1\nkind: y\n" =
        [.ok (.named [("apiVersion", .int 1), ("kind", .str "y")])] ∧
      (read? "apiVersion: 1\nkind: y\n").map toYaml =
        some (.named [("apiVersion", .str "1"), ("kind", .str "y")]) := by
  decide +kernel

end Kustomization

end Reconciler
