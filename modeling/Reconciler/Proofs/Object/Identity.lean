import Reconciler.Proofs.Object.Status
/-!
Which object an object of any kind is, once it was made from another object.  It carries the kind
that was resolved, as the API version that the kind is written as, and the metadata as they are
written.  From there on nothing changes any more, provided that the kind is read as it was written:
an object whose kind cannot be told from its API version is taken for one of another group.
-/
namespace Reconciler

open Json

namespace ObjectData

/-- Data is what it is read from among other fields. -/
theorem ofFields_eq {fields : List (String × Json)} {data : ObjectData}
    (hsorted : Entries.Sorted fields)
    (hfields : ∀ name, name ∉ ["apiVersion", "kind", "metadata"] →
      Entries.get? name fields = data.fields.get? name) :
    ofFields fields = data := by
  have hfree : ∀ (data : ObjectData) {name : String}, name ∈ ["apiVersion", "kind", "metadata"] →
      data.fields.get? name = none :=
    fun data _ hname => Entries.get?_eq_none_of_not_mem (data.not_mem_keys hname)
  have hsame : (ofFields fields).fields = data.fields := by
    apply SortedMap.ext_get?
    intro name
    by_cases hname : name ∈ ["apiVersion", "kind", "metadata"]
    · rw [hfree _ hname, hfree _ hname]
    · exact (get?_ofFields hsorted hname).trans (hfields name hname)
  cases data
  cases hsame
  rfl

end ObjectData

namespace Object

variable {object : Object} {types : TypeMeta} {data : ObjectData}

/-- The type information of an object is written as two fields. -/
theorem field?_toJson_types (htypes : object.types = some types) :
    object.toJson.field? "apiVersion" = some (.str types.apiVersion) ∧
      object.toJson.field? "kind" = some (.str types.kind) := by
  constructor <;> simp [field?_toJson, header, htypes, Entries.get?]

/-- The type information of an object is read from two fields, and there is always data. -/
theorem types_of_decode? {fields : List (String × Json)} {apiVersion kind : String}
    (hversion : Entries.get? "apiVersion" fields = some (.str apiVersion))
    (hkind : Entries.get? "kind" fields = some (.str kind))
    (hread : decode? (.obj fields) = some object) :
    object.types = some ⟨apiVersion, kind⟩ ∧ object.data = some (.ofFields fields) := by
  rw [decode?] at hread
  simp only [hversion, hkind] at hread
  cases hfield : Entries.get? "metadata" fields with
  | none =>
      simp only [hfield] at hread
      cases hread
      exact ⟨rfl, rfl⟩
  | some written =>
      simp only [hfield] at hread
      obtain ⟨metadata, -, hread⟩ := Option.bind_eq_some_iff.1 hread
      cases hread
      exact ⟨rfl, rfl⟩

/-- A kind that was read from an API version can be told from what it is written as unless its
version, in the group without a name, has a slash. -/
theorem legible_iff {gvk : GroupVersionKind} (hgvk : object.gvk = .ok gvk) :
    gvk.Legible ↔ (gvk.group = "" → '/' ∉ gvk.version.toList) := by
  obtain ⟨types, -, hkind, hsame, hparse⟩ := gvk_eq_ok_iff.1 hgvk
  obtain ⟨hversion, hdivided⟩ := GroupVersion.parse?_eq_some_iff.1 hparse
  have hgroup : '/' ∉ gvk.group.toList := by
    rcases hdivided with ⟨hbare, -⟩ | ⟨hslash, -⟩
    · rw [show gvk.group = "" from hbare]
      simp
    · exact hslash
  exact ⟨GroupVersionKind.Legible.bare, fun hbare => ⟨hsame ▸ hkind, hversion, hgroup, hbare⟩⟩

/-- An object with type information and data is read as it was written if its metadata are. -/
theorem decode?_toJson (htypes : object.types = some types) (hdata : object.data = some data)
    (hmetadata : ObjectMeta.decode? object.metadata.toJson = some object.metadata) :
    Object.decode? object.toJson = some object := by
  obtain ⟨hversion, hkind⟩ := field?_toJson_types htypes
  have hwritten := object.field?_toJson_metadata
  have hothers : ∀ name, name ∉ ["apiVersion", "kind", "metadata"] →
      object.toJson.field? name = data.fields.get? name := by
    intro name hname
    have habsent : Entries.get? name object.header = none := by
      apply Entries.get?_eq_none_of_not_mem
      simpa [header, htypes] using hname
    rw [field?_toJson, habsent, Option.none_or, Object.field?, hdata, Option.bind_some]
  rw [toJson_eq, ofFields, Json.field?] at hversion hkind hwritten
  rw [toJson_eq, ofFields, Object.decode?]
  simp only [hversion, hkind, hwritten, hmetadata]
  have hfields : ObjectData.ofFields (Entries.ofList (object.header ++ object.body)) = data := by
    apply ObjectData.ofFields_eq (Entries.sorted_ofList _)
    simpa only [toJson_eq, ofFields, Json.field?] using hothers
  rw [hfields]
  obtain ⟨_, metadata, _⟩ := object
  cases htypes
  cases hdata
  rfl

end Object

/-- The own kind of a built-in type, and that of a type with a table of its fields, can be told from
what it is written as. -/
theorem ObjectType.legible_own {type : ObjectType} {gvk : GroupVersionKind}
    (htype : type ∈ builtIn ∨ ∃ kind, type = .known kind) (hown : type.own? = some gvk) :
    gvk.Legible := by
  rcases htype with hmem | ⟨kind, rfl⟩
  · have hall : ∀ type ∈ builtIn, ∀ gvk ∈ type.own?, gvk.Legible := by decide +kernel
    exact hall type hmem gvk hown
  · cases hown
    exact kind.legible

namespace Scheme

variable {scheme : Scheme} {type : ObjectType} {gvk : GroupVersionKind} {object : type.Value}
  {dynamic : Object} {json : Json}

/-- What is read after the type information was set has this type information. -/
theorem types_of_stamp (hread : Object.decode? (stamp gvk json) = some dynamic) :
    dynamic.types = some gvk.types ∧ ∃ data, dynamic.data = some data := by
  cases json with
  | obj fields =>
      have hversion : (stamp gvk (.obj fields)).field? "apiVersion" =
          some (.str gvk.apiVersion) := by
        simp [stamp, Json.field?, Entries.get?_insert]
      have hkind : (stamp gvk (.obj fields)).field? "kind" = some (.str gvk.kind) := by
        simp [stamp, Json.field?, Entries.get?_insert]
      obtain ⟨htypes, hdata⟩ := Object.types_of_decode? hversion hkind hread
      exact ⟨htypes, _, hdata⟩
  | _ => cases hread

/-- An object with the type information of its kind is not changed when it is turned into an object
of any kind, once its metadata are as they are read. -/
theorem toDynamic_eq_self {data : ObjectData} (hgvk : dynamic.gvk = .ok gvk)
    (htypes : dynamic.types = some gvk.types) (hdata : dynamic.data = some data)
    (hmetadata : ObjectMeta.decode? dynamic.metadata.toJson = some dynamic.metadata) :
    scheme.toDynamic .dynamic dynamic = .ok dynamic := by
  obtain ⟨hversion, hkind⟩ := Object.field?_toJson_types htypes
  have hstamp : stamp gvk dynamic.toJson = dynamic.toJson := by
    rw [Object.toJson_eq, ofFields, Json.field?] at hversion hkind
    rw [Object.toJson_eq, ofFields]
    exact stamp_of_get? (Entries.sorted_ofList _) hversion hkind
  refine toDynamic_eq_ok_iff.2 ⟨gvk, hgvk, ?_⟩
  rw [ObjectType.toJson, hstamp]
  exact Object.decode?_toJson htypes hdata hmetadata

/-- An object of any kind that stands for an object of a type, as one of a kind. -/
structure StandsFor (scheme : Scheme) (type : ObjectType) (object : type.Value)
    (gvk : GroupVersionKind) (dynamic : Object) : Prop where
  kind : scheme.gvkFor type object = .ok gvk
  types : dynamic.types = some gvk.types
  /-- The metadata are what is read of the metadata as they are written. -/
  metadata : ObjectMeta.decode? (type.metadata object).toJson = some dynamic.metadata
  key : ObjectKey.ofObject dynamic = .ofMeta (type.metadata object)
  /-- It is of the same kind exactly if the kind can be told from what it is written as. -/
  sameKind : scheme.gvkFor .dynamic dynamic = .ok gvk ↔ gvk.Legible
  /-- The own kind of a type can be told, both of a built-in type and of one with a table of its
  fields. -/
  legible_own : type ∈ ObjectType.builtIn ∨ (∃ kind, type = .known kind) → type.own? = some gvk →
    gvk.Legible
  /-- The kind that an object says it is of can be told unless its API version begins with a slash
  and has another one. -/
  legible_dynamic : type = .dynamic →
    (gvk.Legible ↔ (gvk.group = "" → '/' ∉ gvk.version.toList))
  sameReference : gvk.Legible →
    ObjectRef.ofTyped scheme .dynamic dynamic = ObjectRef.ofTyped scheme type object
  settled : gvk.Legible → scheme.toDynamic .dynamic dynamic = .ok dynamic

/-- An object of any kind keeps the identity of the object that it was made from, unless the kind
cannot be told from what it is written as. -/
theorem toDynamic_standsFor (hwrites : type.WritesMetadata object)
    (hto : scheme.toDynamic type object = .ok dynamic) :
    ∃ gvk, StandsFor scheme type object gvk dynamic := by
  obtain ⟨gvk, hgvk, hread⟩ := toDynamic_eq_ok_iff.1 hto
  obtain ⟨htypes, data, hdata⟩ := types_of_stamp hread
  have hmetadata := decode?_metadata_of_toDynamic hwrites hto
  obtain ⟨hname, hplace⟩ := ObjectMeta.texts_of_decode? hmetadata
  have hkey : ObjectKey.ofObject dynamic = .ofMeta (type.metadata object) := by
    rw [ObjectKey.ofObject, ObjectKey.ofMeta, ObjectKey.ofMeta, hname, hplace]
  have hlegible : dynamic.gvk = .ok gvk ↔ gvk.Legible := Object.gvk_of_types_iff htypes
  refine ⟨gvk, hgvk, htypes, hmetadata, hkey, hlegible, ObjectType.legible_own, ?_, ?_, ?_⟩
  · rintro rfl
    exact Object.legible_iff hgvk
  · intro h
    have hsame : ObjectKey.ofMeta dynamic.metadata = .ofMeta (type.metadata object) := hkey
    have hdynamic : scheme.gvkFor .dynamic dynamic = .ok gvk := hlegible.2 h
    rw [ObjectRef.ofTyped, ObjectRef.ofTyped, hgvk, hdynamic, ObjectType.metadata, hsame]
  · intro h
    have hsettled := ObjectMeta.settles.decode_encode hmetadata
    exact toDynamic_eq_self (hlegible.2 h) htypes hdata hsettled

/-- A config map that was made a moment after noon. -/
def noonMap : ConfigMap where
  metadata :=
    { creationTimestamp := some ⟨1622548800, 500000000, by decide⟩
      name := some "noon"
      namespaceName := some "system" }

/-- The config map as an object of any kind, made at noon. -/
def noonObject : Object where
  types := some ⟨"v1", "ConfigMap"⟩
  metadata :=
    { creationTimestamp := some (.ofSeconds 1622548800)
      name := some "noon"
      namespaceName := some "system" }
  data := some .empty

/-- A built-in kind can be told, and the time is cut off once only. -/
theorem toDynamic_standsFor_noonMap :
    ∃ gvk, StandsFor .defaults (.known ConfigMap.kind) noonMap gvk noonObject :=
  toDynamic_standsFor (ObjectType.writesMetadata_known noonMap) (by decide +kernel)

/-- An object whose API version begins with a slash and has another one. -/
def slashed : Object where
  types := some ⟨"/a/b", "Widget"⟩
  metadata := { name := some "w" }
  data := some .empty

/-- The object is taken for one of another group when it was turned into an object of any kind. -/
theorem toDynamic_moves_slashed :
    ∃ dynamic, Scheme.defaults.toDynamic .dynamic slashed = .ok dynamic ∧
      slashed.gvk = .ok ⟨"", "a/b", "Widget"⟩ ∧ dynamic.gvk = .ok ⟨"a", "b", "Widget"⟩ ∧
      ObjectRef.ofObject slashed = .ok ⟨⟨"", "Widget"⟩, ⟨none, "w"⟩⟩ ∧
      ObjectRef.ofObject dynamic = .ok ⟨⟨"a", "Widget"⟩, ⟨none, "w"⟩⟩ :=
  ⟨{ slashed with types := some ⟨"a/b", "Widget"⟩ }, by decide +kernel, by decide +kernel,
    by decide +kernel, by decide +kernel, by decide +kernel⟩

end Scheme

end Reconciler
