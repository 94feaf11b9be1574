import Reconciler.Proofs.Condition.Frame
import Reconciler.Proofs.Condition.RoundTrip
/-!
Written conditions are read again, and what is read is written the same.  Unlike the values that
survive being written, these need not come from JSON: a condition that was just stamped with the
present is one of them.
-/
namespace Reconciler

namespace Json

/-- A value that can be read when it was written, as one that is good and written the same. -/
def Rereads {α : Type} (decode : Json → Option α) (encode : α → Json) (good : α → Prop)
    (value : α) : Prop :=
  ∃ read, decode (encode value) = some read ∧ encode read = encode value ∧ good read

/-- A list is read again if each of its items is. -/
theorem Rereads.list {α : Type} {decode : Json → Option α} {encode : α → Json} {good : α → Prop}
    {values : List α} (h : ∀ value ∈ values, Rereads decode encode good value) :
    Rereads (asList? decode) (fun values => .arr (values.map encode))
      (fun values => ∀ value ∈ values, good value) values := by
  change ∃ read, (values.map encode).mapM decode = some read ∧ _
  induction values with
  | nil => exact ⟨[], rfl, rfl, by simp⟩
  | cons first rest ih =>
      obtain ⟨⟨read, hread, hsame, hgood⟩, hrest⟩ := List.forall_mem_cons.1 h
      obtain ⟨others, hothers, hsames, hgoods⟩ := ih hrest
      refine ⟨read :: others, mapM_cons_eq_some_iff.2 ⟨read, others, hread, hothers, rfl⟩, ?_, ?_⟩
      · exact congrArg arr (List.cons_eq_cons.2 ⟨hsame, arr.inj hsames⟩)
      · exact List.forall_mem_cons.2 ⟨hgood, hgoods⟩

/-- A field that may be unset is read again if its value is. -/
theorem Rereads.optional? {α : Type} {decode : Json → Option α} {encode : α → Json}
    {good : α → Prop}
    {json : Json} {name : String} {value : Option α}
    (h : ∀ found ∈ value, Rereads decode encode good found)
    (hnull : ∀ found, encode found ≠ .null) (hfield : json.field? name = value.map encode) :
    ∃ read, json.optional? decode name = some read ∧ read.map encode = value.map encode ∧
      ∀ found ∈ read, good found := by
  cases value with
  | none => exact ⟨none, optional?_eq_some_iff.2 (.inl ⟨by rw [hfield]; rfl, rfl⟩), rfl, by simp⟩
  | some found =>
      obtain ⟨read, hread, hsame, hgood⟩ := h found rfl
      refine ⟨some read, ?_, congrArg some hsame, by simpa using hgood⟩
      exact optional?_eq_some_iff.2 (.inr ⟨encode found, read, hfield, hnull found, hread, rfl⟩)

end Json

/-- A time whose text can be read. -/
def Instant.Readable (t : Instant) : Prop :=
  ∃ read, Rfc3339.parseRelaxed? (Rfc3339.write 0 t) = some read

namespace Condition

/-- A field of any type but that of numbers is read again. -/
theorem FieldType.exists_reread {type : FieldType} {value : FieldValue} (hholds : type.Holds value)
    (htype : type ≠ .optionalInt) (htimes : ∀ t ∈ value.times, t.Readable) :
    ∃ read, type.decode? value.written? = some read ∧ read.written? = value.written? ∧
      ∀ t ∈ read.times, t.Readable := by
  cases value with
  | null =>
      refine ⟨.null, ?_, rfl, htimes⟩
      cases type <;> first | rfl | cases hholds
  | string text =>
      refine ⟨.string text, ?_, rfl, htimes⟩
      rcases type_of_holds_string hholds with rfl | rfl <;> rfl
  | int number => cases type <;> first | exact absurd rfl htype | cases hholds
  | time instant =>
      obtain ⟨read, hread⟩ := htimes instant (by simp [FieldValue.times, FieldValue.instant?])
      have hwrite := Rfc3339.write_of_parseRelaxed? hread
      have hparse : (Rfc3339.parseRelaxed? (Rfc3339.write 0 instant)).map FieldValue.time =
          some (.time read) := by
        rw [hread]
        rfl
      refine ⟨.time read, ?_, ?_, ?_⟩
      · cases type with
        | time | optionalTime => exact hparse
        | _ => cases hholds
      · simp [FieldValue.written?, FieldValue.toJson, hwrite, Option.filter]
      · intro t ht
        obtain rfl : t = read := by simpa [FieldValue.times, FieldValue.instant?] using ht
        exact ⟨t, by rw [hwrite, hread]⟩
  | other value => cases type <;> cases hholds

namespace Slots

/-- What is written of slots. -/
def written (slots : Slots) : List (String × Option Json) :=
  slots.map fun slot => (slot.1, slot.2.value.written?)

theorem exists_reread {slots : Slots} {json : Json}
    (htypes : ∀ slot ∈ slots, slot.2.type ≠ .optionalInt)
    (htimes : ∀ slot ∈ slots, ∀ t ∈ slot.2.value.times, t.Readable)
    (hfield : ∀ slot ∈ slots, json.field? slot.1 = slot.2.value.written?) :
    ∃ read, decode? json slots.shape = some read ∧ read.written = slots.written ∧
      ∀ slot ∈ read, ∀ t ∈ slot.2.value.times, t.Readable := by
  induction slots with
  | nil => exact ⟨[], rfl, rfl, by simp⟩
  | cons slot rest ih =>
      obtain ⟨htype, hrestTypes⟩ := List.forall_mem_cons.1 htypes
      obtain ⟨hfirstTimes, hrestTimes⟩ := List.forall_mem_cons.1 htimes
      obtain ⟨hfirstField, hrestField⟩ := List.forall_mem_cons.1 hfield
      obtain ⟨value, hvalue, hwritten, hreadable⟩ :=
        FieldType.exists_reread slot.2.holds htype hfirstTimes
      obtain ⟨tail, htail, hsame, hothers⟩ := ih hrestTypes hrestTimes hrestField
      rw [← hfirstField] at hvalue
      refine ⟨(slot.1, ⟨slot.2.type, value, FieldType.holds_of_decode? hvalue⟩) :: tail, ?_, ?_, ?_⟩
      · exact decode?_cons_eq_some_iff.2 ⟨_, tail, rfl, rfl, hvalue, htail⟩
      · exact List.cons_eq_cons.2 ⟨congrArg (slot.1, ·) hwritten, hsame⟩
      · exact List.forall_mem_cons.2 ⟨hreadable, hothers⟩

/-- Slots that hold something are those that something is written of. -/
theorem filterMap_written (slots : Slots) :
    slots.written.filterMap (fun field => field.2.map (field.1, ·)) =
      (slots.filter fun slot => slot.2.value ≠ .null).map
        fun slot => (slot.1, slot.2.value.toJson) := by
  induction slots with
  | nil => rfl
  | cons slot rest ih =>
      have hrest : written (slot :: rest) = (slot.1, slot.2.value.written?) :: written rest :=
        rfl
      rw [hrest]
      by_cases hnull : slot.2.value = .null
      · rw [List.filter_cons_of_neg (by simpa using hnull), List.filterMap_cons_none, ih]
        simp [hnull, FieldValue.written?, Option.filter]
      · rw [List.filter_cons_of_pos (by simpa using hnull), List.map_cons, ← ih]
        apply List.filterMap_cons_some
        simp [hnull, FieldValue.written?, Option.filter]

end Slots

namespace TypedCondition

theorem toJson_eq_of_written_eq {condition other : TypedCondition}
    (h : condition.slots.written = other.slots.written) : condition.toJson = other.toJson := by
  rw [toJson, toJson, ← Slots.filterMap_written, ← Slots.filterMap_written, h]

end TypedCondition

namespace Record

/-- A condition of a deployment whose times can be read. -/
structure Rereadable (record : Record) : Prop where
  form : record.form = .typed .deployment
  times : ∀ name t, record.field? name = some (.time t) → t.Readable

theorem Rereadable.exists_typed {record : Record} (h : record.Rereadable) :
    ∃ condition, record = .typed condition ∧ condition.type = .deployment := by
  cases record with
  | typed condition => exact ⟨condition, rfl, Form.typed.inj h.form⟩
  | map fields => cases h.form
  | json value => cases value <;> cases h.form

/-- The condition of a deployment is read again with the same fields. -/
theorem Rereadable.rereads {record : Record} (h : record.Rereadable) :
    Json.Rereads (decode? (.typed .deployment)) toJson Rereadable record := by
  obtain ⟨condition, rfl, htype⟩ := h.exists_typed
  have htypes : ∀ slot ∈ condition.slots, slot.2.type ≠ .optionalInt := by
    have hfields : ∀ field ∈ ConditionType.deployment.fields, field.2 ≠ .optionalInt := by decide
    intro slot hslot
    refine hfields (slot.1, slot.2.type) ?_
    rw [← htype, ← condition.conforms]
    exact List.mem_map.2 ⟨slot, hslot, rfl⟩
  have htimes : ∀ slot ∈ condition.slots, ∀ t ∈ slot.2.value.times, t.Readable := by
    intro slot hslot t ht
    refine h.times slot.1 t ?_
    have hget := Slots.get?_of_mem condition.nodup_names hslot
    cases hvalue : slot.2.value with
    | time instant =>
        obtain rfl : t = instant := by
          simpa [hvalue, FieldValue.times, FieldValue.instant?] using ht
        rw [field?, hget, hvalue]
    | _ => simp [hvalue, FieldValue.times, FieldValue.instant?] at ht
  have hfield : ∀ slot ∈ condition.slots,
      condition.toJson.field? slot.1 = slot.2.value.written? := by
    intro slot hslot
    rw [TypedCondition.field?_toJson, Slots.get?_of_mem condition.nodup_names hslot]
    rfl
  obtain ⟨slots, hslots, hwritten, hreadable⟩ := Slots.exists_reread htypes htimes hfield
  rw [condition.conforms, htype] at hslots
  refine ⟨.typed ⟨.deployment, slots, Slots.shape_decode? hslots⟩, ?_, ?_, rfl, ?_⟩
  · refine Option.map_eq_some_iff.2 ⟨_, ?_, rfl⟩
    exact TypedCondition.decode?_eq_some_iff.2 ⟨rfl, rfl, hslots⟩
  · exact TypedCondition.toJson_eq_of_written_eq hwritten
  · intro name t hname
    obtain ⟨slot, hslot, hvalue⟩ := Slots.exists_mem_of_get? hname
    exact hreadable slot hslot t (by simp [hvalue, FieldValue.times, FieldValue.instant?])

end Record

end Condition

end Reconciler
