import Reconciler.Proofs.Object.Typed
import Reconciler.Reference
/-!
Objects of a kind survive being turned into objects of any kind and back.  An object of any
kind keeps the type information, the metadata and all other fields of what it was made from, so that
it is written as that was written; only the times of its metadata have been read in between.
-/
namespace Reconciler

open Json

namespace ObjectData

/-- Data has no field of the type information or the metadata. -/
theorem not_mem_keys (data : ObjectData) {name : String}
    (hname : name ∈ ["apiVersion", "kind", "metadata"]) :
    name ∉ data.fields.entries.map (·.1) := by
  intro hmem
  obtain ⟨entry, hentry, rfl⟩ := List.mem_map.1 hmem
  exact data.free entry hentry hname

/-- The fields of the data stand beside the structured parts, each once. -/
theorem nodup_keys (data : ObjectData) {apiVersion kind metadata : Json} :
    (("apiVersion", apiVersion) :: ("kind", kind) :: ("metadata", metadata) ::
      data.fields.entries |>.map (·.1)).Nodup := by
  have hfree : ∀ name ∈ ["apiVersion", "kind", "metadata"],
      name ∉ data.fields.entries.map (·.1) := fun _ hname => data.not_mem_keys hname
  have hdata := Entries.nodup_keys data.fields.sorted
  simp only [List.forall_mem_cons] at hfree
  simp [hfree, hdata]

/-- All other fields are data. -/
theorem get?_ofFields {fields : List (String × Json)} (hsorted : Entries.Sorted fields)
    {name : String} (hname : name ∉ ["apiVersion", "kind", "metadata"]) :
    Entries.get? name (ofFields fields).fields.entries = Entries.get? name fields := by
  have hall : (SortedMap.ofList fields).get? name = Entries.get? name fields :=
    Entries.get?_ofList (Entries.nodup_keys hsorted) name
  have hfilter := SortedMap.get?_filter (fun name _ => name ∉ ["apiVersion", "kind", "metadata"])
    (SortedMap.ofList fields) name
  rw [hall] at hfilter
  refine hfilter.trans ?_
  cases Entries.get? name fields with
  | none => rfl
  | some value => simp [Option.filter, hname]

end ObjectData

/-- An object of any kind is written as what it was read from, if its metadata is. -/
theorem Object.exists_decode? {fields : List (String × Json)} {apiVersion kind : String}
    {metadata : ObjectMeta} {written : Json} (hsorted : Entries.Sorted fields)
    (hversion : Entries.get? "apiVersion" fields = some (.str apiVersion))
    (hkind : Entries.get? "kind" fields = some (.str kind))
    (hmetadata : Entries.get? "metadata" fields = some written)
    (hread : ObjectMeta.decode? written = some metadata) (hwrite : metadata.toJson = written) :
    ∃ object, Object.decode? (.obj fields) = some object ∧
      object.types = some ⟨apiVersion, kind⟩ ∧ object.metadata = metadata ∧
      object.toJson = .obj fields := by
  have hdecode : Object.decode? (.obj fields) =
      some ⟨some ⟨apiVersion, kind⟩, metadata, some (.ofFields fields)⟩ := by
    simp only [Object.decode?, hversion, hkind, hmetadata, hread]
    rfl
  refine ⟨_, hdecode, rfl, rfl, congrArg Json.obj ?_⟩
  -- Both sides are sorted, so that it is enough to look up each name.
  refine Entries.eq_of_get?_eq (Entries.sorted_ofList _) hsorted fun name => ?_
  refine (Entries.get?_ofList (ObjectData.nodup_keys _) name).trans ?_
  have hne : ∀ {name other : String}, name ≠ other → compare name other ≠ .eq :=
    fun hname hsame => hname (Std.LawfulEqOrd.eq_of_compare hsame)
  by_cases hfirst : name = "apiVersion"
  · rw [hfirst, hversion]
    exact if_pos Std.ReflCmp.compare_self
  by_cases hsecond : name = "kind"
  · rw [hsecond, hkind, Entries.get?, if_neg (hne (by simp))]
    exact if_pos Std.ReflCmp.compare_self
  by_cases hthird : name = "metadata"
  · rw [hthird, hmetadata, Entries.get?, if_neg (hne (by simp)), Entries.get?,
      if_neg (hne (by simp)), ← hwrite]
    exact if_pos Std.ReflCmp.compare_self
  · rw [Entries.get?, if_neg (hne hfirst), Entries.get?, if_neg (hne hsecond), Entries.get?,
      if_neg (hne hthird)]
    exact ObjectData.get?_ofFields hsorted (by simp [hfirst, hsecond, hthird])

/-- The kind that an object says it is of. -/
theorem Object.gvk_eq_ok_iff {object : Object} {gvk : GroupVersionKind} :
    object.gvk = .ok gvk ↔ ∃ types, object.types = some types ∧ types.kind ≠ "" ∧
      types.kind = gvk.kind ∧
      GroupVersion.parse? types.apiVersion = some ⟨gvk.group, gvk.version⟩ := by
  have hblank : GroupVersion.parse? "" = none := rfl
  obtain ⟨group, version, kind⟩ := gvk
  rw [Object.gvk]
  cases object.types with
  | none => simp
  | some types =>
      simp only [Option.some.injEq, exists_eq_left', String.isEmpty_iff]
      by_cases hunset : types.kind = "" ∨ types.apiVersion = ""
      · rw [if_pos hunset]
        rcases hunset with hkind | hversion
        · simp [hkind]
        · simp [hversion, hblank]
      · rw [if_neg hunset]
        rw [not_or] at hunset
        rw [GroupVersion.parse]
        cases GroupVersion.parse? types.apiVersion with
        | none => simp [Except.map]
        | some parsed =>
            obtain ⟨parsedGroup, parsedVersion⟩ := parsed
            simp [Except.map, hunset.1, and_comm, and_assoc]

/-- An object with the type information of a kind is of that kind if the kind can be told from what
it is written as. -/
theorem Object.gvk_of_types_iff {object : Object} {gvk : GroupVersionKind}
    (htypes : object.types = some gvk.types) : object.gvk = .ok gvk ↔ gvk.Legible := by
  rw [gvk_eq_ok_iff]
  constructor
  · rintro ⟨types, hsame, hkind, -, hparse⟩
    obtain rfl : gvk.types = types := Option.some.inj (htypes.symm.trans hsame)
    obtain ⟨hversion, hgroup, hbare⟩ := GroupVersionKind.parse?_apiVersion_iff.1 hparse
    exact ⟨hkind, hversion, hgroup, hbare⟩
  · intro hlegible
    have hparse := GroupVersionKind.parse?_apiVersion_iff.2
      ⟨hlegible.version, hlegible.group, hlegible.bare⟩
    exact ⟨gvk.types, htypes, hlegible.kind, rfl, hparse⟩

namespace Scheme

variable {scheme : Scheme} {kind : ObjectKind} {type : ObjectType} {gvk : GroupVersionKind}

theorem gvk_eq_ok (hregistered : scheme.registered type = some gvk) :
    scheme.gvk type = .ok gvk := by
  rw [Scheme.gvk, hregistered]

/-- An object with the type information of a kind is of that kind. -/
theorem gvk_of_types {dynamic : Object} (htypes : dynamic.types = some kind.gvk.types) :
    dynamic.gvk = .ok kind.gvk :=
  (Object.gvk_of_types_iff htypes).2 kind.legible

/-- When an object of a type is turned into one of any kind. -/
theorem toDynamic_eq_ok_iff {object : type.Value} {dynamic : Object} :
    scheme.toDynamic type object = .ok dynamic ↔
      ∃ gvk, scheme.gvkFor type object = .ok gvk ∧
        Object.decode? (stamp gvk (type.toJson object)) = some dynamic := by
  rw [toDynamic, Except.bind_eq_ok_iff]
  refine exists_congr fun gvk => and_congr_right fun _ => ?_
  cases Object.decode? (stamp gvk (type.toJson object)) <;>
    simp [pure, Except.pure, throw, throwThe, MonadExceptOf.throw]

/-- When an object of any kind is turned into one of a type. -/
theorem fromDynamic_eq_ok_iff {dynamic : Object} {value : type.Value} :
    scheme.fromDynamic type dynamic = .ok value ↔
      ∃ found, dynamic.gvk = .ok found ∧
        (type ≠ .dynamic → ∃ expected, scheme.gvk type = .ok expected ∧
          expected.groupKind = found.groupKind) ∧
        type.decode? dynamic.toJson = some value := by
  have hadmits : ∀ found, scheme.admits found type = .ok () ↔
      (type ≠ .dynamic → ∃ expected, scheme.gvk type = .ok expected ∧
        expected.groupKind = found.groupKind) := by
    intro found
    cases type with
    | dynamic => simp [admits]
    | _ =>
        simp only [admits, Except.bind_eq_ok_iff, ne_eq, reduceCtorEq, not_false_eq_true,
          true_implies]
        refine exists_congr fun expected => and_congr_right fun _ => ?_
        by_cases hkind : expected.groupKind = found.groupKind <;>
          simp [hkind, pure, Except.pure, throw, throwThe, MonadExceptOf.throw]
  rw [fromDynamic, Except.bind_eq_ok_iff]
  refine exists_congr fun found => and_congr_right fun _ => ?_
  rw [← hadmits, Except.bind_eq_ok_iff]
  cases type.decode? dynamic.toJson with
  | none => simp [throw, throwThe, MonadExceptOf.throw]
  | some read =>
      simp only [pure, Except.pure, Except.ok.injEq, Option.some.injEq]
      exact ⟨fun ⟨_, h⟩ => h, fun h => ⟨(), h⟩⟩

/-- Type information that is there already is not changed. -/
theorem stamp_of_get? {fields : List (String × Json)} (hsorted : Entries.Sorted fields)
    (hversion : Entries.get? "apiVersion" fields = some (.str gvk.apiVersion))
    (hkind : Entries.get? "kind" fields = some (.str gvk.kind)) :
    stamp gvk (.obj fields) = .obj fields := by
  rw [stamp, Entries.insert_of_get?_eq_some hsorted hversion,
    Entries.insert_of_get?_eq_some hsorted hkind]

section

variable {object : KindObject kind} {json : Json}

/-- An object of a kind becomes an object of any kind which is written the same, if its metadata are
read again as metadata that are written the same. -/
theorem exists_toDynamic_of_metadata {metadata : ObjectMeta}
    (hregistered : scheme.registered (.known kind) = some kind.gvk)
    (hmetadata : ObjectMeta.decode? object.metadata.toJson = some metadata)
    (hsame : metadata.toJson = object.metadata.toJson) :
    ∃ dynamic, scheme.toDynamic (.known kind) object = .ok dynamic ∧
      dynamic.types = some kind.gvk.types ∧ dynamic.metadata = metadata ∧
      dynamic.toJson = object.toJson := by
  obtain ⟨entries, hentries, hsorted⟩ : ∃ entries,
      object.toJson = .obj entries ∧ Entries.Sorted entries := ⟨_, rfl, Entries.sorted_ofList _⟩
  have hversion := object.field?_apiVersion
  have hkind := object.field?_kind
  have hheader := object.field?_metadata
  rw [hentries] at hversion hkind hheader
  obtain ⟨dynamic, hdynamic, htypes, hmeta, htoJson⟩ := Object.exists_decode? hsorted hversion
    hkind hheader hmetadata hsame
  refine ⟨dynamic, ?_, htypes, hmeta, by rw [htoJson, hentries]⟩
  refine toDynamic_eq_ok_iff.2 ⟨kind.gvk, gvk_eq_ok hregistered, ?_⟩
  rw [ObjectType.toJson, hentries, stamp_of_get? hsorted hversion hkind, hdynamic]

/-- An object of a kind that was read from JSON becomes an object of any kind which is written the
same. -/
theorem exists_toDynamic (hregistered : scheme.registered (.known kind) = some kind.gvk)
    (hread : KindObject.decode? json = some object)
    (hcivil : ∀ t ∈ object.metadata.times, t.Civil) :
    ∃ dynamic, scheme.toDynamic (.known kind) object = .ok dynamic ∧
      dynamic.types = some kind.gvk.types ∧ dynamic.metadata = object.metadata.truncate ∧
      dynamic.toJson = object.toJson := by
  obtain ⟨source, hsource⟩ := exists_of_typedHeader? (KindObject.decode?_eq_some_iff.1 hread).1
  exact exists_toDynamic_of_metadata hregistered
    (ObjectMeta.roundTrips.decode_encode hsource hcivil) object.metadata.toJson_truncate

/-- What is written as an object of a kind is turned into that object again. -/
theorem fromDynamic_eq_ok {dynamic : Object}
    (hregistered : scheme.registered (.known kind) = some kind.gvk)
    (htypes : dynamic.types = some kind.gvk.types)
    (hread : KindObject.decode? dynamic.toJson = some object) :
    scheme.fromDynamic (.known kind) dynamic = .ok object :=
  fromDynamic_eq_ok_iff.2 ⟨kind.gvk, gvk_of_types htypes,
    fun _ => ⟨kind.gvk, gvk_eq_ok hregistered, rfl⟩, hread⟩

end

end Scheme

end Reconciler
