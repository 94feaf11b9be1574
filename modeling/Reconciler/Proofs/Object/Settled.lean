import Reconciler.Proofs.Object.Meta
/-!
Reading settles what was written.  A value need not come back as it was, since times are cut off and
what is written as null is not read; but what comes back comes back unchanged from then on.  This
holds of all times, also of those that are not read as the times that were written.
-/
namespace Reconciler

open Json

namespace Json

/-- What is read of a written value is read again when it is written itself. -/
structure Settles {α : Type} (decode : Json → Option α) (encode : α → Json) : Prop where
  ne_null : ∀ {written read : α}, decode (encode written) = some read → encode written ≠ .null →
    encode read ≠ .null
  decode_encode : ∀ {written read : α}, decode (encode written) = some read →
    decode (encode read) = some read

variable {α : Type} {decode : Json → Option α} {encode : α → Json} {name : String}

/-- What survives is settled at once. -/
theorem Survives.settles (h : Survives decode encode) : Settles decode encode where
  ne_null hread hne := h.ne_null hread hne
  decode_encode hread := h.decode_encode hread (by simp)

theorem optional?_string {json : Json} {value : Option String}
    (hfield : json.field? name = value.map .str) :
    json.optional? asString? name = some value := by
  rw [optional?, hfield]
  cases value <;> rfl

theorem settles_seconds : Settles asTime? (time 0) where
  ne_null _ _ := by simp [time]
  decode_encode {written read} hread := by
    rw [time, asTime?, asString?, Option.bind_some] at hread ⊢
    rw [Rfc3339.write_of_parseRelaxed? hread, hread]

theorem Settles.list (h : Settles decode encode) :
    Settles (asList? decode) fun values => .arr (values.map encode) where
  ne_null _ _ := by simp
  decode_encode {written read} hread := by
    have hitems : (written.map encode).mapM decode = some read := hread
    change (read.map encode).mapM decode = some read
    clear hread
    induction written generalizing read with
    | nil =>
        cases hitems
        rfl
    | cons first rest ih =>
        obtain ⟨value, others, hvalue, hothers, rfl⟩ := mapM_cons_eq_some_iff.1 hitems
        exact mapM_cons_eq_some_iff.2 ⟨value, others, h.decode_encode hvalue, ih hothers, rfl⟩

/-- A field that may be unset settles as its values do. -/
theorem Settles.optional? (h : Settles decode encode) {first second : Json}
    {written read : Option α} (hread : first.optional? decode name = some read)
    (hfirst : first.field? name = written.map encode)
    (hsecond : second.field? name = read.map encode) :
    second.optional? decode name = some read := by
  rw [optional?_eq_some_iff] at hread ⊢
  rcases hread with ⟨-, rfl⟩ | ⟨field, found, hfield, hne, hfound, rfl⟩
  · exact .inl ⟨by rw [hsecond]; rfl, rfl⟩
  · rw [hfirst] at hfield
    obtain ⟨value, -, rfl⟩ := Option.map_eq_some_iff.1 hfield
    exact .inr ⟨encode found, found, hsecond, h.ne_null hfound hne, h.decode_encode hfound, rfl⟩

/-- A part that is written as a field settles as the values of the field do. -/
theorem Settles.part (h : Settles decode encode) {β : Type} (toJson : β → Json)
    (part : β → Option α) (hpart : ∀ whole, (toJson whole).field? name = (part whole).map encode)
    {written read : β} (hread : (toJson written).optional? decode name = some (part read)) :
    (toJson read).optional? decode name = some (part read) :=
  h.optional? hread (hpart written) (hpart read)

end Json

namespace ManagedFields

theorem settles : Settles decode? toJson where
  ne_null _ _ := present_ne_null _
  decode_encode {written read} hread := by
    rw [decode?_eq_some_iff] at hread ⊢
    have hfield : ∀ {managed : ManagedFields} {name : String} {value : Option Json},
        (name, value) ∈ _ → managed.toJson.field? name = value := field?_present (by simp)
    have hstring : Settles asString? .str := survives_string.settles
    exact
      { isObject := rfl
        apiVersion := hstring.part toJson apiVersion (fun _ => hfield (by simp)) hread.apiVersion
        fieldsType := hstring.part toJson fieldsType (fun _ => hfield (by simp)) hread.fieldsType
        fieldsV1 := survives_some.settles.part toJson fieldsV1
          (fun _ => hfield (by simp)) hread.fieldsV1
        manager := hstring.part toJson manager (fun _ => hfield (by simp)) hread.manager
        operation := hstring.part toJson operation (fun _ => hfield (by simp)) hread.operation
        subresource := hstring.part toJson subresource (fun _ => hfield (by simp)) hread.subresource
        time := settles_seconds.part toJson time (fun _ => hfield (by simp)) hread.time }

end ManagedFields

namespace ObjectMeta

theorem settles : Settles decode? toJson where
  ne_null _ _ := present_ne_null _
  decode_encode {written read} hread := by
    rw [decode?_eq_some_iff] at hread ⊢
    have hfield : ∀ {metadata : ObjectMeta} {name : String} {value : Option Json},
        (name, value) ∈ _ → metadata.toJson.field? name = value := field?_present (by simp)
    have hstring : Settles asString? .str := survives_string.settles
    have hint : Settles (asInt? 64) .int := (survives_int 64).settles
    have hmap : Settles (asMap? asString?) stringMap := survives_stringMap.settles
    exact
      { isObject := rfl
        annotations := hmap.part toJson annotations (fun _ => hfield (by simp)) hread.annotations
        creationTimestamp := settles_seconds.part toJson creationTimestamp
          (fun _ => hfield (by simp)) hread.creationTimestamp
        deletionGracePeriodSeconds := hint.part toJson deletionGracePeriodSeconds
          (fun _ => hfield (by simp)) hread.deletionGracePeriodSeconds
        deletionTimestamp := settles_seconds.part toJson deletionTimestamp
          (fun _ => hfield (by simp)) hread.deletionTimestamp
        finalizers := survives_strings.settles.part toJson finalizers
          (fun _ => hfield (by simp)) hread.finalizers
        generateName := hstring.part toJson generateName (fun _ => hfield (by simp))
          hread.generateName
        generation := hint.part toJson generation (fun _ => hfield (by simp)) hread.generation
        labels := hmap.part toJson labels (fun _ => hfield (by simp)) hread.labels
        managedFields := ManagedFields.settles.list.part toJson managedFields
          (fun _ => hfield (by simp)) hread.managedFields
        name := hstring.part toJson name (fun _ => hfield (by simp)) hread.name
        namespaceName := hstring.part toJson namespaceName (fun _ => hfield (by simp))
          hread.namespaceName
        ownerReferences := OwnerReference.survives.list.settles.part toJson ownerReferences
          (fun _ => hfield (by simp)) hread.ownerReferences
        resourceVersion := hstring.part toJson resourceVersion (fun _ => hfield (by simp))
          hread.resourceVersion
        selfLink := hstring.part toJson selfLink (fun _ => hfield (by simp)) hread.selfLink
        uid := hstring.part toJson uid (fun _ => hfield (by simp)) hread.uid }

/-- Metadata that can be read again keep the name and the namespace. -/
theorem texts_of_decode? {written read : ObjectMeta} (hread : decode? written.toJson = some read) :
    read.name = written.name ∧ read.namespaceName = written.namespaceName := by
  rw [decode?_eq_some_iff] at hread
  have hfield : ∀ {name : String} {value : Option Json}, (name, value) ∈ _ →
      written.toJson.field? name = value := field?_present (by simp)
  have hname : written.toJson.optional? asString? "name" = some written.name :=
    optional?_string (hfield (by simp))
  have hplace : written.toJson.optional? asString? "namespace" = some written.namespaceName :=
    optional?_string (hfield (by simp))
  exact ⟨Option.some.inj (hread.name.symm.trans hname),
    Option.some.inj (hread.namespaceName.symm.trans hplace)⟩

end ObjectMeta

end Reconciler
