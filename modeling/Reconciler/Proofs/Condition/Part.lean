import Reconciler.Condition.Part
import Reconciler.Proofs.Condition.Copy
import Reconciler.Proofs.Condition.Mirror
/-!
The laws of reading and setting the parts of a condition.  A part that was set reads as it was set,
on an open record up to whole seconds, and nothing else reads differently; what cannot be set leaves
the record alone.  Which records have a part at all depends on their types only.
-/
namespace Reconciler.Condition

/-- What a part can be set to. -/
def Part.Argument : Part → Type
  | .type | .reason | .message => String
  | .status => Status
  | .lastUpdateTime | .lastTransitionTime => Instant
  | .observedGeneration => { number : Int // FieldValue.isInt64 number = true }

namespace Part

/-- The value of a part after it was set. -/
def value : (part : Part) → part.Argument → PartValue
  | .type, text | .reason, text | .message, text => .text text
  | .status, state => .status state
  | .lastUpdateTime, time | .lastTransitionTime, time => .time (some time)
  | .observedGeneration, number => .number number.1

/-- What is assigned to the field of a part. -/
def fieldValue : (part : Part) → part.Argument → FieldValue
  | .type, text | .reason, text | .message, text => .string text
  | .status, state => .string state.name
  | .lastUpdateTime, time | .lastTransitionTime, time => .time time
  | .observedGeneration, number => .int number.1

/-- Whether a part is stored as a text. -/
def isText : Part → Bool
  | .type | .status | .reason | .message => true
  | .lastUpdateTime | .lastTransitionTime | .observedGeneration => false

end Part

/-- Set a part of a condition. -/
def Accessor.set (accessor : Accessor) : (part : Part) → part.Argument → Edit Unit
  | .type, text => accessor.setType text
  | .status, state => accessor.setStatus state
  | .reason, text => accessor.setReason text
  | .message, text => accessor.setMessage text
  | .lastUpdateTime, time => accessor.setLastUpdateTime time
  | .lastTransitionTime, time => accessor.setLastTransitionTime time
  | .observedGeneration, number => accessor.setObservedGeneration number.1

namespace Record

/-- A value as it is read from a record of a form that it was set in. -/
def Form.readsBack (value : PartValue) : Form → PartValue
  | .typed _ => value
  | _ => value.truncate

/-- A value that can be read from a record of a form that it was set in. -/
def Form.CanReadBack (form : Form) : PartValue → Prop
  | .time (some time) => form.CanShow time
  | _ => True

variable {α β : Type} {record before after : Record} {field : String}

theorem isRecord_eq_false_iff :
    record.isRecord = false ↔ ∃ value, record = .json value ∧ value.isObject = false := by
  cases record with
  | json value => simp [isRecord]
  | _ => simp [isRecord]

/-- Only a typed condition can be without a field. -/
theorem field?_eq_none_iff :
    record.isRecord = true ∧ record.field? field = none ↔
      ∃ condition, record = .typed condition ∧ field ∉ condition.type.fields.map (·.1) := by
  cases record with
  | typed condition =>
      have hlookup := Slots.isSome_get? field condition.slots
      rw [condition.conforms] at hlookup
      simp [isRecord, field?, ← Option.not_isSome_iff_eq_none, hlookup]
  | map fields => simp [field?]
  | json value => cases value <;> simp [isRecord, field?, Json.isObject]

/-- The two errors that depend on the record alone: it has no fields, or not this one. -/
structure Locates (record : Record) (field : String) (result : Except AccessError α) : Prop where
  notARecord_iff : ∀ name typeName, result = .error (.notARecord name typeName) ↔
    (∃ value, record = .json value ∧ value.isObject = false) ∧
      name = field ∧ typeName = record.typeName
  missingField_iff : ∀ name typeName, result = .error (.missingField name typeName) ↔
    (∃ condition, record = .typed condition ∧ field ∉ condition.type.fields.map (·.1)) ∧
      name = field ∧ typeName = record.typeName

theorem locates_of_cases {result : Except AccessError α}
    (hbare : record.isRecord = false → result = .error (.notARecord field record.typeName))
    (habsent : record.isRecord = true → record.field? field = none →
      result = .error (.missingField field record.typeName))
    (hpresent : ∀ value, record.field? field = some value →
      ∀ name typeName, result ≠ .error (.notARecord name typeName) ∧
        result ≠ .error (.missingField name typeName)) :
    record.Locates field result := by
  have hcases : record.isRecord = false ∨
      (record.isRecord = true ∧ record.field? field = none) ∨
      ∃ value, record.field? field = some value := by
    rcases record.isRecord with _ | _ <;> rcases record.field? field with _ | value <;> simp
  constructor
  · intro name typeName
    rw [← isRecord_eq_false_iff]
    constructor
    · intro herror
      rcases hcases with hrecord | ⟨hrecord, hfield⟩ | ⟨value, hfield⟩
      · rw [hbare hrecord] at herror
        cases herror
        exact ⟨hrecord, rfl, rfl⟩
      · rw [habsent hrecord hfield] at herror
        cases herror
      · exact absurd herror (hpresent value hfield name typeName).1
    · rintro ⟨hrecord, rfl, rfl⟩
      exact hbare hrecord
  · intro name typeName
    rw [← field?_eq_none_iff]
    constructor
    · intro herror
      rcases hcases with hrecord | habsence | ⟨value, hfield⟩
      · rw [hbare hrecord] at herror
        cases herror
      · rw [habsent habsence.1 habsence.2] at herror
        cases herror
        exact ⟨habsence, rfl, rfl⟩
      · exact absurd herror (hpresent value hfield name typeName).2
    · rintro ⟨⟨hrecord, hfield⟩, rfl, rfl⟩
      exact habsent hrecord hfield

theorem locates_read (record : Record) (field : String) (type : FieldType) :
    record.Locates field (record.read field type) := by
  apply locates_of_cases
  · intro hrecord
    rw [read, ensureRecord, hrecord]
    rfl
  · intro hrecord hfield
    rw [read, ensureRecord, hrecord, hfield]
    rfl
  · intro value hfield name typeName
    rw [read, ensureRecord, isRecord_of_field? hfield, hfield]
    constructor <;> cases htake : type.take? value <;>
      simp [htake, bind, Except.bind, pure, Except.pure, throw, throwThe, MonadExceptOf.throw]

/-- What comes after reading a field can fail for other reasons only. -/
theorem Locates.bind {result : Except AccessError α} (h : record.Locates field result)
    {next : α → Except AccessError β}
    (hnext : ∀ value name typeName, next value ≠ .error (.notARecord name typeName) ∧
      next value ≠ .error (.missingField name typeName)) :
    record.Locates field (result >>= next) := by
  cases result with
  | error error =>
      constructor
      · intro name typeName
        rw [← h.notARecord_iff name typeName]
        simp [Bind.bind, Except.bind]
      · intro name typeName
        rw [← h.missingField_iff name typeName]
        simp [Bind.bind, Except.bind]
  | ok value =>
      constructor
      · intro name typeName
        rw [← h.notARecord_iff name typeName]
        simpa [Bind.bind, Except.bind] using (hnext value name typeName).1
      · intro name typeName
        rw [← h.missingField_iff name typeName]
        simpa [Bind.bind, Except.bind] using (hnext value name typeName).2

theorem Locates.map {result : Except AccessError α} (h : record.Locates field result)
    (change : α → β) : record.Locates field (result.map change) := by
  have hbind : result.map change = result >>= fun value => .ok (change value) := by
    cases result <;> rfl
  rw [hbind]
  exact h.bind fun value name typeName => by simp

end Record

namespace Slots

variable {slots : Slots} {name : String} {value : FieldValue}

theorem set_of_get?_eq_none (h : slots.get? name = none) :
    set name value slots = .error .missing := by
  induction slots with
  | nil => rfl
  | cons slot rest ih =>
      by_cases hname : slot.1 = name
      · rw [get?, if_pos hname] at h
        cases h
      · rw [get?, if_neg hname] at h
        rw [set, if_neg hname, ih h]
        rfl

/-- A slot that is there can only be of a type that does not take a value. -/
theorem exists_mismatch_of_set {held : FieldValue} {error : FieldError}
    (h : slots.get? name = some held) (hset : set name value slots = .error error) :
    ∃ expected, error = .mismatch expected := by
  induction slots with
  | nil => cases h
  | cons slot rest ih =>
      unfold set at hset
      by_cases hname : slot.1 = name
      · rw [if_pos hname] at hset
        split at hset
        · cases hset
        · cases hset
          exact ⟨slot.2.type, rfl⟩
      · rw [if_neg hname, Except.map_eq_error_iff] at hset
        rw [get?, if_neg hname] at h
        exact ih h hset

end Slots

theorem TypedCondition.set_eq_error_iff {condition : TypedCondition} {name : String}
    {value : FieldValue} {error : FieldError} :
    condition.set name value = .error error ↔ condition.slots.set name value = .error error := by
  unfold TypedCondition.set
  split
  · rename_i slots hslots
    simp [hslots]
  · rename_i found hfound
    simp [hfound]

namespace Record

variable {record : Record} {field : String} {value : FieldValue}

theorem setField_of_field?_eq_none (hrecord : record.isRecord = true)
    (h : record.field? field = none) : record.setField field value = .error .missing := by
  cases record with
  | typed condition =>
      have hset : condition.set field value = .error .missing :=
        TypedCondition.set_eq_error_iff.2 (Slots.set_of_get?_eq_none h)
      rw [setField, hset]
      rfl
  | map fields => cases h
  | json json =>
      cases json with
      | obj fields => cases h
      | _ => cases hrecord

theorem exists_mismatch_of_setField {held : FieldValue} {error : FieldError}
    (h : record.field? field = some held) (hset : record.setField field value = .error error) :
    ∃ expected, error = .mismatch expected := by
  cases record with
  | typed condition =>
      rw [setField, Except.map_eq_error_iff, TypedCondition.set_eq_error_iff] at hset
      exact Slots.exists_mismatch_of_set h hset
  | map fields => cases hset
  | json json =>
      cases json with
      | obj fields => cases hset
      | _ => cases h

theorem locates_assign (record : Record) (field : String) (value : FieldValue) :
    record.Locates field (record.assign field value) := by
  apply locates_of_cases
  · intro hrecord
    rw [assign, ensureRecord, hrecord]
    rfl
  · intro hrecord hfield
    rw [assign, ensureRecord, hrecord, setField_of_field?_eq_none hrecord hfield]
    rfl
  · intro held hfield name typeName
    rw [assign, ensureRecord, isRecord_of_field? hfield]
    rcases hset : record.setField field value with error | assigned
    · obtain ⟨expected, rfl⟩ := exists_mismatch_of_setField hfield hset
      constructor <;> intro herror <;> cases herror
    · constructor <;> intro herror <;> cases herror

end Record

namespace Accessor

open Record (Locates)

variable {accessor : Accessor} {record before after : Record}

theorem locates_status (accessor : Accessor) (record : Record) :
    record.Locates accessor.names.status (accessor.status record) := by
  unfold status
  apply (Record.locates_read record accessor.names.status .optionalString).bind
  intro value name typeName
  by_cases hempty : value.text.isEmpty
  · simp [hempty, pure, Except.pure]
  · cases hstatus : Status.ofName? value.text <;>
      simp [hempty, hstatus, pure, Except.pure, throw, throwThe, MonadExceptOf.throw]

theorem locates_getPart (accessor : Accessor) (record : Record) (part : Part) :
    record.Locates (accessor.names.name part) (accessor.getPart record part) := by
  cases part with
  | status => exact (locates_status accessor record).map _
  | _ => exact ((Record.locates_read record _ _).map _).map _

/-- A part whose field is out of reach reads as before. -/
theorem getPart_eq_of_agreeOff {off : List String} (h : before.AgreeOff off after) {part : Part}
    (hpart : accessor.names.name part ∉ off) :
    accessor.getPart after part = accessor.getPart before part := by
  cases part with
  | type | reason | message =>
      have hread := h.read_eq hpart .optionalString
      exact congrArg (fun result => (result.map FieldValue.text).map PartValue.text) hread
  | status =>
      have hread : after.read accessor.names.status .optionalString =
          before.read accessor.names.status .optionalString := h.read_eq hpart .optionalString
      have hname : after.typeName = before.typeName := by
        rw [Record.typeName_eq, Record.typeName_eq, h.form_eq]
      rw [getPart, getPart, status, status, hread, hname]
  | lastUpdateTime | lastTransitionTime =>
      have hread := h.read_eq hpart .optionalTime
      exact congrArg (fun result => (result.map FieldValue.instant?).map PartValue.time) hread
  | observedGeneration =>
      have hread := h.read_eq hpart .optionalInt
      exact congrArg (fun result => (result.map FieldValue.number).map PartValue.number) hread

theorem set_eq_assign (accessor : Accessor) (part : Part) (argument : part.Argument) :
    accessor.set part argument =
      Edit.assign (accessor.names.name part) (part.fieldValue argument) := by
  cases part <;> rfl

/-- What was set is read: a text unless it was read as a time, and a time as the record shows it. -/
theorem getPart_of_set {part : Part} {argument : part.Argument}
    (hset : (accessor.set part argument).on before = (.ok (), after))
    (htext : ¬ (part.isText = true ∧ before.form.holdsTime (accessor.names.name part) = true))
    (hvalue : before.form.CanReadBack (part.value argument)) :
    accessor.getPart after part = .ok (before.form.readsBack (part.value argument)) := by
  rw [set_eq_assign] at hset
  have hassigned := Edit.setField_of_assign hset
  have hform := (Record.setField_agreeOff hassigned).form_eq
  obtain ⟨stored, hstore, hstored⟩ := Record.setField_stored hassigned
  rw [← hform] at htext hvalue hstore ⊢
  have hpart : part.isText = true → after.form.holdsTime (accessor.names.name part) = false := by
    intro hpart
    rw [← Bool.not_eq_true]
    exact fun htime => htext ⟨hpart, htime⟩
  cases part with
  | type | reason | message =>
      have hread := Record.read_of_store?_string (hpart rfl) hstore hstored
      have hshown : after.form.readsBack (.text argument) = .text argument := by
        cases after.form <;> rfl
      exact (congrArg (Except.map PartValue.text) hread).trans (congrArg Except.ok hshown.symm)
  | status =>
      have hread := Record.read_of_store?_string (hpart rfl) hstore hstored
      have hshown : after.form.readsBack (.status argument) = .status argument := by
        cases after.form <;> rfl
      exact (congrArg (Except.map PartValue.status) (status_of_read hread)).trans
        (congrArg Except.ok hshown.symm)
  | lastUpdateTime | lastTransitionTime =>
      rw [Record.Form.store?_time hstore] at hstored
      have hread := Record.read_stamp hvalue hstored
      have hshown : after.form.readsBack (.time (some argument)) =
          .time (some (after.form.shown argument)) := by
        cases after.form <;> rfl
      exact (congrArg (Except.map PartValue.time) hread).trans (congrArg Except.ok hshown.symm)
  | observedGeneration =>
      have hread := observedGeneration_of_stored argument.2 hstore hstored
      have hshown : after.form.readsBack (.number argument.1) = .number argument.1 := by
        cases after.form <;> rfl
      exact (congrArg (Except.map PartValue.number) hread).trans (congrArg Except.ok hshown.symm)

/-- What setting a part comes to. -/
structure Sets (accessor : Accessor) (part : Part) (argument : part.Argument) (before : Record)
    (result : Except AccessError Unit) (after : Record) : Prop where
  locates : before.Locates (accessor.names.name part) result
  /-- What fails changes nothing. -/
  failed : ∀ error, result = .error error → after = before
  /-- Every other field reads as before, as whatever type. -/
  others : ∀ field ≠ accessor.names.name part, after.field? field = before.field? field ∧
    ∀ type, after.read field type = before.read field type
  /-- So does every part that has another field. -/
  parts : ∀ other, accessor.names.name other ≠ accessor.names.name part →
    accessor.getPart after other = accessor.getPart before other
  /-- What was set is read, on an open record up to whole seconds.  Only a text that a typed
  condition took as a time is no text any more. -/
  readsBack : result = .ok () →
    ¬ (part.isText = true ∧ before.form.holdsTime (accessor.names.name part) = true) →
    before.form.CanReadBack (part.value argument) →
      accessor.getPart after part = .ok (before.form.readsBack (part.value argument))

theorem exists_sets (accessor : Accessor) (part : Part) (argument : part.Argument)
    (before : Record) :
    ∃ result after, (accessor.set part argument).on before = (result, after) ∧
      accessor.Sets part argument before result after := by
  rcases hon : (accessor.set part argument).on before with ⟨result, after⟩
  have hassign := hon
  rw [set_eq_assign] at hassign
  have hagree := (Edit.touches_assign (List.mem_singleton_self _) _).agreeOff hassign
  rw [Edit.on_assign] at hassign
  have hlocates := Record.locates_assign before (accessor.names.name part)
    (part.fieldValue argument)
  have hends : result = (before.assign (accessor.names.name part)
      (part.fieldValue argument)).map (fun _ => ()) ∧
      ∀ error, result = .error error → after = before := by
    cases hresult : before.assign (accessor.names.name part) (part.fieldValue argument) with
    | error error =>
        rw [hresult] at hassign
        obtain ⟨rfl, rfl⟩ := Prod.mk.inj hassign
        exact ⟨rfl, fun _ _ => rfl⟩
    | ok assigned =>
        rw [hresult] at hassign
        obtain ⟨rfl, rfl⟩ := Prod.mk.inj hassign
        exact ⟨rfl, fun _ herror => by cases herror⟩
  refine ⟨result, after, rfl, ?_⟩
  constructor
  · rw [hends.1]
    exact hlocates.map _
  · exact hends.2
  · intro field hfield
    have hoff : field ∉ [accessor.names.name part] := by simpa using hfield
    exact ⟨hagree.field?_eq hoff, hagree.read_eq hoff⟩
  · intro other hother
    exact getPart_eq_of_agreeOff hagree (by simpa using hother)
  · rintro rfl
    exact getPart_of_set hon

/-- An edit that is done only on records which have a field. -/
structure IfHas (field : String) (edit conditional : Edit Unit) (record : Record) : Prop where
  has : ∀ value, record.field? field = some value → conditional.on record = edit.on record
  lacks : record.isRecord = true → record.field? field = none →
    conditional.on record = (.ok (), record)
  bare : record.isRecord = false →
    conditional.on record = (.error (.notARecord field record.typeName), record)

theorem ifHas_assignIfExists (field : String) (value : FieldValue) (record : Record) :
    IfHas field (Edit.assign field value) (Edit.assignIfExists field value) record := by
  constructor
  · intro held hfield
    have hrecord := Record.isRecord_of_field? hfield
    have hhas := Record.has_eq_ok_iff.2 ⟨hrecord, (congrArg Option.isSome hfield).symm⟩
    rw [Edit.on_assignIfExists, hhas]
    rfl
  · intro hrecord hfield
    have hhas := Record.has_eq_ok_iff.2 ⟨hrecord, (congrArg Option.isSome hfield).symm⟩
    rw [Edit.on_assignIfExists, hhas]
    rfl
  · intro hrecord
    have hhas : record.has field = .error (.notARecord field record.typeName) := by
      rw [Record.has, Record.ensureRecord, hrecord]
      rfl
    rw [Edit.on_assignIfExists, hhas]

/-- Accessors keep the laws of records, whatever names they have for the parts. -/
theorem reads_what_it_sets (accessor : Accessor) (record : Record) :
    (∀ part, record.Locates (accessor.names.name part) (accessor.getPart record part)) ∧
    (∀ part argument, ∃ result after,
      (accessor.set part argument).on record = (result, after) ∧
        accessor.Sets part argument record result after) ∧
    ∀ time,
      IfHas accessor.names.lastUpdateTime (accessor.set .lastUpdateTime time)
        (accessor.setLastUpdateTimeIfExists time) record ∧
      IfHas accessor.names.lastTransitionTime (accessor.set .lastTransitionTime time)
        (accessor.setLastTransitionTimeIfExists time) record :=
  ⟨locates_getPart accessor record, fun part argument => exists_sets accessor part argument record,
    fun _ => ⟨ifHas_assignIfExists _ _ record, ifHas_assignIfExists _ _ record⟩⟩

end Accessor

end Reconciler.Condition
