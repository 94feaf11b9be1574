import Reconciler.Condition.Part
import Reconciler.Proofs.Condition.Transitions
/-!
Typed conditions and conditions in JSON behave alike.  An object mirrors a typed condition if it
shows each field that the condition has: a text or a number as it is, a time as its text, and
nothing where the condition holds nothing or has been left at an empty text.  Whatever succeeds on
the condition succeeds on the object, and the object mirrors the condition again.
-/
namespace Reconciler.Condition

namespace FieldValue

/-- How an object shows the value of a typed field. -/
inductive ShownAs : FieldValue → FieldValue → Prop where
  | null : ShownAs .null .null
  | string (text : String) : ShownAs (.string text) (.string text)
  /-- A text that nothing was assigned to. -/
  | unset : ShownAs (.string "") .null
  | int {value : Int} : isInt64 value = true → ShownAs (.int value) (.int value)
  | time {instant : Instant} :
      instant.Civil → ShownAs (.time instant) (.string (Rfc3339.write 0 instant))

/-- A value that its JSON form stands for, up to a fraction of a second. -/
def Sound : FieldValue → Prop
  | .int value => isInt64 value = true
  | .time instant => instant.Civil
  | _ => True

instance : (value : FieldValue) → Decidable value.Sound
  | .int value => inferInstanceAs (Decidable (isInt64 value = true))
  | .time instant => inferInstanceAs (Decidable instant.Civil)
  | .null | .string _ | .other _ => inferInstanceAs (Decidable True)

/-- What a field takes of a value and what an object stores of it show the same, unless the field
reads a text as a time. -/
theorem shownAs_of_take? {type : FieldType} {value taken : FieldValue}
    (htake : type.take? value = some taken) (hsound : value.Sound)
    (htext : ∀ text, value = .string text → type ≠ .time ∧ type ≠ .optionalTime) :
    taken.ShownAs (.ofJson value.toJson) := by
  cases value with
  | null =>
      cases type <;> cases htake
      · exact .unset
      all_goals exact .null
  | string text =>
      obtain ⟨htime, hoptional⟩ := htext text rfl
      cases type with
      | string | optionalString =>
          cases htake
          exact .string text
      | time => exact absurd rfl htime
      | optionalTime => exact absurd rfl hoptional
      | optionalInt => cases htake
  | int value =>
      have hvalue : ofJson (.int value) = .int value := if_pos hsound
      cases type <;> cases htake
      rw [toJson, hvalue]
      exact .int hsound
  | time instant => cases type <;> cases htake <;> exact .time hsound
  | other value => cases type <;> cases htake

end FieldValue

namespace Record

/-- Records that are JSON objects. -/
def Form.IsOpen : Form → Prop
  | .map | .object => True
  | _ => False

namespace Form.IsOpen

variable {form : Form}

theorem store? (h : form.IsOpen) (field : String) (value : FieldValue) :
    form.store? field value = some (.inr value.toJson) := by
  cases form <;> first | rfl | exact h.elim

theorem hasField (h : form.IsOpen) (name : String) : form.hasField name = true := by
  cases form <;> first | rfl | exact h.elim

theorem reads (h : form.IsOpen) (value : Json) :
    form.reads (some (.inr value)) = some (.ofJson value) := by
  cases form <;> first | rfl | exact h.elim

end Form.IsOpen

/-- An object shows the fields of a typed condition, but for some. -/
structure Mirrors (type : ConditionType) (off : List String) (record mirror : Record) : Prop where
  form_eq : record.form = .typed type
  isOpen : mirror.form.IsOpen
  shown : ∀ name ∉ off, ∀ value, record.field? name = some value →
    ∃ image, mirror.field? name = some image ∧ value.ShownAs image

variable {type : ConditionType} {record mirror after : Record} {name : String}

theorem holds_field? {value : FieldValue} (hform : record.form = .typed type)
    (hfield : record.field? name = some value) :
    ∃ fieldType, type.fields.lookup name = some fieldType ∧ fieldType.Holds value := by
  cases record with
  | typed condition =>
      cases hform
      obtain ⟨fieldType, hlookup, hholds⟩ := Slots.holds_get? hfield
      exact ⟨fieldType, by rw [← condition.conforms]; exact hlookup, hholds⟩
  | map fields => cases hform
  | json value => cases value <;> cases hform

/-- After an assignment a typed condition holds what the field took. -/
theorem field?_of_setField_typed {value : FieldValue} (hform : record.form = .typed type)
    (hset : record.setField name value = .ok after) :
    ∃ fieldType taken, type.fields.lookup name = some fieldType ∧
      fieldType.take? value = some taken ∧ after.field? name = some taken := by
  obtain ⟨stored, hstore, hstored⟩ := setField_stored hset
  rw [hform] at hstore
  obtain ⟨taken, htaken, rfl⟩ := Option.map_eq_some_iff.1 hstore
  obtain ⟨fieldType, hlookup, htake⟩ := Option.bind_eq_some_iff.1 htaken
  refine ⟨fieldType, taken, hlookup, htake, ?_⟩
  rw [field?_eq_reads, hstored, (setField_agreeOff hset).form_eq, hform]
  rfl

theorem isRecord_of_isOpen (h : record.form.IsOpen) : record.isRecord = true := by
  rw [isRecord_eq]
  generalize record.form = form at h
  cases form <;> first | rfl | exact h.elim

theorem typeName_of_isOpen (h : record.form.IsOpen) : record.typeName = "JSON object" := by
  rw [typeName_eq]
  generalize record.form = form at h
  cases form <;> first | rfl | exact h.elim

theorem field?_of_setField_isOpen {value : FieldValue} (hform : record.form.IsOpen)
    (hset : record.setField name value = .ok after) :
    after.field? name = some (.ofJson value.toJson) := by
  obtain ⟨stored, hstore, hstored⟩ := setField_stored hset
  rw [hform.store?, Option.some.injEq] at hstore
  rw [field?_eq_reads, hstored, (setField_agreeOff hset).form_eq, ← hstore, hform.reads]

namespace Mirrors

variable {off rest : List String}

/-- An assignment that a typed condition takes is taken by its mirror too, which then shows the
field that was assigned to. -/
theorem set (h : Mirrors type off record mirror) {value : FieldValue} (hsound : value.Sound)
    (htext : ∀ text, value = .string text → (Form.typed type).holdsTime name = false)
    (hoff : off ⊆ name :: rest) (hset : record.setField name value = .ok after) :
    ∃ image, mirror.setField name value = .ok image ∧ Mirrors type rest after image := by
  obtain ⟨image, himage⟩ : ∃ image, mirror.setField name value = .ok image :=
    exists_setField (h.isOpen.store? name value)
  have hagree := setField_agreeOff hset
  have himages := setField_agreeOff himage
  refine ⟨image, himage, hagree.form_eq.trans h.form_eq, himages.form_eq.symm ▸ h.isOpen, ?_⟩
  intro other hother found hfound
  by_cases hsame : other = name
  · subst hsame
    obtain ⟨fieldType, taken, hlookup, htake, hfield⟩ := field?_of_setField_typed h.form_eq hset
    obtain rfl : taken = found := Option.some.inj (hfield.symm.trans hfound)
    refine ⟨_, field?_of_setField_isOpen h.isOpen himage, ?_⟩
    refine FieldValue.shownAs_of_take? htake hsound fun text hvalue => ?_
    have htime := htext text hvalue
    simp only [Form.holdsTime, hlookup, Option.some.injEq, Bool.or_eq_false_iff,
      decide_eq_false_iff_not] at htime
    exact htime
  · have hlist : other ∉ [name] := by simpa using hsame
    have hkept : other ∉ off := fun hmem => by
      rcases List.mem_cons.1 (hoff hmem) with hname | hrest
      · exact hsame hname
      · exact hother hrest
    rw [hagree.field?_eq hlist] at hfound
    rw [himages.field?_eq hlist]
    exact h.shown other hkept found hfound

/-- A field that the condition lacks may be assigned to in the mirror alone. -/
theorem set_mirror (h : Mirrors type off record mirror) {value : FieldValue}
    (hlacks : record.field? name = none) (hoff : off ⊆ name :: rest) {image : Record}
    (hset : mirror.setField name value = .ok image) : Mirrors type rest record image := by
  have hagree := setField_agreeOff hset
  refine ⟨h.form_eq, hagree.form_eq.symm ▸ h.isOpen, ?_⟩
  intro other hother found hfound
  have hne : other ≠ name := by
    rintro rfl
    rw [hlacks] at hfound
    cases hfound
  rw [hagree.field?_eq (by simpa using hne)]
  refine h.shown other (fun hmem => ?_) found hfound
  rcases List.mem_cons.1 (hoff hmem) with hname | hrest
  · exact hne hname
  · exact hother hrest

/-- The fields of the condition are there in its mirror, with the values that are shown. -/
theorem fields (h : Mirrors type off record mirror) {fieldType : FieldType} (hoff : name ∉ off)
    (hlookup : type.fields.lookup name = some fieldType) :
    ∃ value image, record.field? name = some value ∧ mirror.field? name = some image ∧
      fieldType.Holds value ∧ value.ShownAs image := by
  obtain ⟨value, hvalue⟩ : ∃ value, record.field? name = some value := by
    rw [← Option.isSome_iff_exists, isSome_field?, h.form_eq, Form.hasField, hlookup]
    rfl
  obtain ⟨found, hfound, hholds⟩ := holds_field? h.form_eq hvalue
  obtain rfl : found = fieldType := Option.some.inj (hfound.symm.trans hlookup)
  obtain ⟨image, himage, hshown⟩ := h.shown name hoff value hvalue
  exact ⟨value, image, hvalue, himage, hholds, hshown⟩

theorem read_text (h : Mirrors type off record mirror) (hoff : name ∉ off) {fieldType : FieldType}
    (hlookup : type.fields.lookup name = some fieldType)
    (htext : fieldType = .string ∨ fieldType = .optionalString) :
    ∃ value image, record.read name .optionalString = .ok value ∧
      mirror.read name .optionalString = .ok image ∧ image.text = value.text := by
  obtain ⟨value, image, hvalue, himage, hholds, hshown⟩ := h.fields hoff hlookup
  rcases hholds.text htext with rfl | ⟨text, rfl⟩
  · cases hshown
    exact ⟨.null, .null, read_eq_ok_iff.2 ⟨_, hvalue, rfl⟩, read_eq_ok_iff.2 ⟨_, himage, rfl⟩, rfl⟩
  · have hread : record.read name .optionalString = .ok (.string text) :=
      read_eq_ok_iff.2 ⟨_, hvalue, rfl⟩
    cases hshown with
    | string => exact ⟨_, .string text, hread, read_eq_ok_iff.2 ⟨_, himage, rfl⟩, rfl⟩
    | unset => exact ⟨_, .null, hread, read_eq_ok_iff.2 ⟨_, himage, rfl⟩, rfl⟩

theorem read_time (h : Mirrors type off record mirror) (hoff : name ∉ off) {fieldType : FieldType}
    (hlookup : type.fields.lookup name = some fieldType)
    (htime : fieldType = .time ∨ fieldType = .optionalTime) :
    ∃ value image, record.read name .optionalTime = .ok value ∧
      mirror.read name .optionalTime = .ok image ∧
      image.instant? = value.instant?.map Instant.truncate := by
  obtain ⟨value, image, hvalue, himage, hholds, hshown⟩ := h.fields hoff hlookup
  rcases hholds.time htime with rfl | ⟨instant, rfl⟩
  · cases hshown
    exact ⟨.null, .null, read_eq_ok_iff.2 ⟨_, hvalue, rfl⟩, read_eq_ok_iff.2 ⟨_, himage, rfl⟩, rfl⟩
  · cases hshown with
    | time hcivil =>
        refine ⟨.time instant, .time instant.truncate, read_eq_ok_iff.2 ⟨_, hvalue, rfl⟩,
          read_eq_ok_iff.2 ⟨_, himage, ?_⟩, rfl⟩
        rw [FieldType.take?, Rfc3339.parse?_write_zero hcivil]
        rfl

theorem read_number (h : Mirrors type off record mirror) (hoff : name ∉ off)
    (hlookup : type.fields.lookup name = some .optionalInt) :
    ∃ value, record.read name .optionalInt = .ok value ∧
      mirror.read name .optionalInt = .ok value := by
  obtain ⟨value, image, hvalue, himage, hholds, hshown⟩ := h.fields hoff hlookup
  rcases hholds.int with rfl | ⟨number, rfl⟩
  · cases hshown
    exact ⟨.null, read_eq_ok_iff.2 ⟨_, hvalue, rfl⟩, read_eq_ok_iff.2 ⟨_, himage, rfl⟩⟩
  · cases hshown
    exact ⟨.int number, read_eq_ok_iff.2 ⟨_, hvalue, rfl⟩, read_eq_ok_iff.2 ⟨_, himage, rfl⟩⟩

end Mirrors

end Record

namespace FieldNames

/-- Names by which the records of a type keep texts as texts, times as times and the observed
generation as a number. -/
structure Fits (names : FieldNames) (type : ConditionType) : Prop where
  texts : ∀ field ∈ names.type :: names.texts, ∃ fieldType,
    type.fields.lookup field = some fieldType ∧
      (fieldType = .string ∨ fieldType = .optionalString)
  times : ∀ field ∈ names.times, ∀ fieldType, type.fields.lookup field = some fieldType →
    fieldType = .time ∨ fieldType = .optionalTime
  number : ∀ fieldType, type.fields.lookup names.observedGeneration = some fieldType →
    fieldType = .optionalInt
  /-- A new condition has no time but that of its transition. -/
  required : ∀ field, type.fields.lookup field = some .time → field = names.lastTransitionTime

theorem fits_default (type : ConditionType) : ({} : FieldNames).Fits type where
  texts := by
    have hall : ∀ field ∈ ["type", "status", "reason", "message"],
        type.fields.lookup field = some .string ∨
          type.fields.lookup field = some .optionalString := by
      cases type <;> decide
    intro field hfield
    rcases hall field hfield with hlookup | hlookup
    · exact ⟨_, hlookup, .inl rfl⟩
    · exact ⟨_, hlookup, .inr rfl⟩
  times := by
    have hall : ∀ field ∈ ["lastTransitionTime", "lastUpdateTime"],
        type.fields.lookup field = some .time ∨ type.fields.lookup field = some .optionalTime ∨
          type.fields.lookup field = none := by
      cases type <;> decide
    intro field hfield fieldType hlookup
    rcases hall field hfield with hfound | hfound | hfound <;> rw [hfound] at hlookup
    · exact .inl (Option.some.inj hlookup).symm
    · exact .inr (Option.some.inj hlookup).symm
    · cases hlookup
  number := by
    have hfound : type.fields.lookup "observedGeneration" = some .optionalInt ∨
        type.fields.lookup "observedGeneration" = none := by
      cases type <;> decide
    intro fieldType hlookup
    rcases hfound with hfound | hfound <;> rw [hfound] at hlookup
    · exact (Option.some.inj hlookup).symm
    · cases hlookup
  required := by
    have hall : ∀ field ∈ type.fields, field.2 = .time → field.1 = "lastTransitionTime" := by
      cases type <;> decide
    intro field hlookup
    obtain ⟨front, back, hfields, -⟩ := List.lookup_eq_some_iff.1 hlookup
    exact hall (field, .time) (by simp [hfields]) rfl

variable {names : FieldNames} {type : ConditionType}

theorem Fits.holdsTime_eq_false (h : names.Fits type) {field : String}
    (hfield : field ∈ names.type :: names.texts) :
    (Record.Form.typed type).holdsTime field = false := by
  obtain ⟨fieldType, hlookup, htext⟩ := h.texts field hfield
  rcases htext with rfl | rfl <;> simp [Record.Form.holdsTime, hlookup]

end FieldNames

namespace Record.Mirrors

variable {names : FieldNames} {type : ConditionType} {off : List String} {record mirror : Record}
  {field : String}

/-- A text that the names keep reads the same in a condition and its mirror. -/
theorem map_read_text (h : Mirrors type off record mirror) (hfits : names.Fits type)
    (hfield : field ∈ names.type :: names.texts) (hoff : field ∉ off) :
    ∃ text, (record.read field .optionalString).map FieldValue.text = .ok text ∧
      (mirror.read field .optionalString).map FieldValue.text = .ok text := by
  obtain ⟨fieldType, hlookup, htext⟩ := hfits.texts field hfield
  obtain ⟨value, image, hvalue, himage, hsame⟩ := h.read_text hoff hlookup htext
  exact ⟨value.text, by rw [hvalue]; rfl, by rw [himage, ← hsame]; rfl⟩

/-- A condition has a field only if its type has one. -/
theorem exists_lookup (h : Mirrors type off record mirror) (hhas : record.has field = .ok true) :
    ∃ fieldType, type.fields.lookup field = some fieldType := by
  have hfield := (has_eq_ok_iff.1 hhas).2
  rw [isSome_field?, h.form_eq] at hfield
  exact Option.isSome_iff_exists.1 hfield.symm

/-- A time that the names keep reads the same in a condition and its mirror, up to whole seconds. -/
theorem map_read_time (h : Mirrors type off record mirror) (hfits : names.Fits type)
    (hfield : field ∈ names.times) (hoff : field ∉ off) (hhas : record.has field = .ok true) :
    ∃ time, (record.read field .optionalTime).map FieldValue.instant? = .ok time ∧
      (mirror.read field .optionalTime).map FieldValue.instant? =
        .ok (time.map Instant.truncate) := by
  obtain ⟨fieldType, hlookup⟩ := h.exists_lookup hhas
  have htype := hfits.times field hfield fieldType hlookup
  obtain ⟨value, image, hvalue, himage, hsame⟩ := h.read_time hoff hlookup htype
  exact ⟨value.instant?, by rw [hvalue]; rfl, by rw [himage, ← hsame]; rfl⟩

/-- The observed generation reads the same in a condition and its mirror. -/
theorem read_observedGeneration (h : Mirrors type off record mirror) (hfits : names.Fits type)
    (hoff : names.observedGeneration ∉ off)
    (hhas : record.has names.observedGeneration = .ok true) :
    ∃ value, record.read names.observedGeneration .optionalInt = .ok value ∧
      mirror.read names.observedGeneration .optionalInt = .ok value := by
  obtain ⟨fieldType, hlookup⟩ := h.exists_lookup hhas
  obtain rfl := hfits.number fieldType hlookup
  exact h.read_number hoff hlookup

end Record.Mirrors

/-- What counts as the state reads the same in a condition and its mirror. -/
theorem Transition.values_eq_of_mirrors {names : FieldNames} {type : ConditionType}
    {off : List String} {record mirror : Record} (transition : Transition)
    (hfits : names.Fits type) (hoff : ∀ field ∈ names.texts, field ∉ off)
    (h : Record.Mirrors type off record mirror) :
    transition.values names mirror = transition.values names record := by
  have htext : ∀ field ∈ transition.fields names,
      (mirror.read field .optionalString).map FieldValue.text =
        (record.read field .optionalString).map FieldValue.text := by
    intro field hfield
    have hmem := Transition.fields_subset_texts hfield
    obtain ⟨text, hvalue, himage⟩ :=
      h.map_read_text hfits (List.mem_cons_of_mem _ hmem) (hoff field hmem)
    rw [hvalue, himage]
  unfold Transition.values
  generalize transition.fields names = fields at htext ⊢
  induction fields with
  | nil => rfl
  | cons field rest ih =>
      rw [List.mapM_cons, List.mapM_cons, htext field List.mem_cons_self,
        ih fun other hother => htext other (List.mem_cons_of_mem _ hother)]

namespace Edit

open Record (Mirrors)

/-- What an edit does to a typed condition it does to a mirror of the condition. -/
def Carries {α : Type} (type : ConditionType) (off rest : List String) (edit : Edit α) : Prop :=
  ∀ (record mirror after : Record) (value : α), Mirrors type off record mirror →
    edit.on record = (.ok value, after) →
    ∃ image, edit.on mirror = (.ok value, image) ∧ Mirrors type rest after image

variable {α β : Type} {type : ConditionType} {off between rest : List String}

theorem carries_pure (value : α) : (pure value : Edit α).Carries type off off := by
  rintro record mirror after _ hmirrors ⟨⟩
  exact ⟨mirror, rfl, hmirrors⟩

theorem carries_reading {read : Record → Except AccessError α}
    (hread : ∀ record mirror, Mirrors type off record mirror → read mirror = read record) :
    (reading read).Carries type off off := by
  intro record mirror after value hmirrors hrun
  rw [on_reading, Prod.mk.injEq] at hrun
  obtain ⟨hvalue, rfl⟩ := hrun
  exact ⟨mirror, by rw [on_reading, hread record mirror hmirrors, hvalue], hmirrors⟩

theorem Carries.bind {edit : Edit α} {next : α → Edit β} (h : edit.Carries type off between)
    (hnext : ∀ value, (next value).Carries type between rest) :
    (edit >>= next).Carries type off rest := by
  intro record mirror after answer hmirrors hrun
  obtain ⟨value, changed, hfirst, hsecond⟩ := Attempt.on_bind_eq_ok.1 hrun
  obtain ⟨image, himage, hchanged⟩ := h record mirror changed value hmirrors hfirst
  obtain ⟨last, hlast, hafter⟩ := hnext value changed image after answer hchanged hsecond
  exact ⟨last, Attempt.on_bind_eq_ok.2 ⟨value, image, himage, hlast⟩, hafter⟩

theorem on_assign_of_setField {record after : Record} {field : String} {value : FieldValue}
    (hrecord : record.isRecord = true) (hset : record.setField field value = .ok after) :
    (assign field value).on record = (.ok (), after) := by
  rw [on_assign, Record.assign_eq_ok_iff.2 ⟨hrecord, hset⟩]

theorem carries_assign {field : String} {value : FieldValue} (hsound : value.Sound)
    (htext : ∀ text, value = .string text →
      (Record.Form.typed type).holdsTime field = false)
    (hoff : off ⊆ field :: rest) : (assign field value).Carries type off rest := by
  intro record mirror after _ hmirrors hrun
  obtain ⟨image, himage, hafter⟩ :=
    hmirrors.set hsound htext hoff (setField_of_assign hrun)
  exact ⟨image, on_assign_of_setField
    (Record.isRecord_of_isOpen hmirrors.isOpen) himage, hafter⟩

/-- A mirror has every field, so that it is assigned to even where the condition lacks the field. -/
theorem carries_assignIfExists_time {field : String} {now : Instant} (hnow : now.Civil)
    (hoff : off ⊆ field :: rest) : (assignIfExists field (.time now)).Carries type off rest := by
  intro record mirror after _ hmirrors hrun
  have hrecord := Record.isRecord_of_isOpen hmirrors.isOpen
  have hhas : mirror.has field = .ok true := by
    refine Record.has_eq_ok_iff.2 ⟨hrecord, ?_⟩
    rw [Record.isSome_field?, hmirrors.isOpen.hasField]
  obtain ⟨image, himage⟩ : ∃ image, mirror.setField field (.time now) = .ok image :=
    Record.exists_setField (hmirrors.isOpen.store? field _)
  have hon : (assignIfExists field (.time now)).on mirror = (.ok (), image) := by
    rw [on_assignIfExists, hhas]
    exact on_assign_of_setField hrecord himage
  refine ⟨image, hon, ?_⟩
  rw [on_assignIfExists] at hrun
  cases hfound : record.has field with
  | error error => simp [hfound] at hrun
  | ok found =>
      cases found with
      | true =>
          simp only [hfound] at hrun
          have hsound : (FieldValue.time now).Sound := hnow
          obtain ⟨assigned, hassigned, hafter⟩ :=
            hmirrors.set hsound (by simp) hoff (setField_of_assign hrun)
          obtain rfl : assigned = image := Except.ok.inj (hassigned.symm.trans himage)
          exact hafter
      | false =>
          simp only [hfound, Prod.mk.injEq, true_and] at hrun
          subst hrun
          have hlacks := (Record.has_eq_ok_iff.1 hfound).2
          refine hmirrors.set_mirror ?_ hoff himage
          rwa [eq_comm, Option.isSome_eq_false_iff, Option.isNone_iff_eq_none] at hlacks

theorem Carries.stamped {names : FieldNames} {edit : Edit Unit} (h : edit.Carries type [] [])
    (hfits : names.Fits type) (transition : Transition) {now : Instant} (hnow : now.Civil) :
    (stamped names transition now edit).Carries type [] [] := by
  have hvalues : (reading (transition.values names)).Carries type [] [] :=
    carries_reading fun record mirror =>
      transition.values_eq_of_mirrors hfits fun _ _ => List.not_mem_nil
  have htime : ∀ field, (assignIfExists field (.time now)).Carries type [] [] := fun field =>
    carries_assignIfExists_time hnow (List.nil_subset _)
  refine hvalues.bind fun before => h.bind fun _ => hvalues.bind fun after => ?_
  by_cases hchanged : after ≠ before
  · rw [if_pos hchanged]
    exact (htime _).bind fun _ => htime _
  · rw [if_neg hchanged]
    exact (carries_pure ()).bind fun _ => htime _

end Edit

namespace Update

/-- An update of the status, the reason, the message or the observed generation. -/
def IsBasic : Update → Prop
  | .status _ | .reason _ | .message _ => True
  | .observedGeneration generation => FieldValue.isInt64 generation = true
  | _ => False

instance : (update : Update) → Decidable update.IsBasic
  | .status _ | .reason _ | .message _ => inferInstanceAs (Decidable True)
  | .observedGeneration generation =>
    inferInstanceAs (Decidable (FieldValue.isInt64 generation = true))
  | .copy _ _ | .timestamps _ _ _ => inferInstanceAs (Decidable False)

variable {accessor : Accessor} {type : ConditionType}

theorem IsBasic.carries {update : Update} (hbasic : update.IsBasic)
    (hfits : accessor.names.Fits type) : (apply accessor update).Carries type [] [] := by
  have htext : ∀ field ∈ accessor.names.texts, ∀ text,
      (Edit.assign field (.string text)).Carries type [] [] := fun field hfield text =>
    Edit.carries_assign trivial
      (fun _ _ => hfits.holdsTime_eq_false (List.mem_cons_of_mem _ hfield)) (List.nil_subset _)
  cases update with
  | status status => exact htext _ (by simp [FieldNames.texts]) _
  | reason reason => exact htext _ (by simp [FieldNames.texts]) _
  | message message => exact htext _ (by simp [FieldNames.texts]) _
  | observedGeneration generation =>
      exact Edit.carries_assign hbasic (fun _ hvalue => by cases hvalue) (List.nil_subset _)
  | copy reader source => exact hbasic.elim
  | timestamps transition now updates => exact hbasic.elim

theorem carries_applyAll {updates : List Update} (hbasic : ∀ update ∈ updates, update.IsBasic)
    (hfits : accessor.names.Fits type) : (applyAll accessor updates).Carries type [] [] := by
  induction updates with
  | nil => exact Edit.carries_pure ()
  | cons update rest ih =>
      have hfirst := (hbasic update List.mem_cons_self).carries hfits
      exact hfirst.bind fun _ => ih fun other hmem => hbasic other (List.mem_cons_of_mem _ hmem)

end Update

/-- A new object mirrors a new condition, but for the time of the last transition, which some
conditions have from the start. -/
theorem Record.mirrors_blank {names : FieldNames} {type : ConditionType} {kind : RecordKind}
    (hfits : names.Fits type) (hkind : kind.form.IsOpen) (now : Instant) :
    Mirrors type [names.lastTransitionTime] (.blank (.typed type) now) (.blank kind now) where
  form_eq := rfl
  isOpen := by rwa [kind.form_blank]
  shown name hname value hvalue := by
    refine ⟨.null, ?_, ?_⟩
    · cases kind <;> first | rfl | exact hkind.elim
    rw [blank, field?, TypedCondition.blank, Slots.get?_blank] at hvalue
    obtain ⟨fieldType, hlookup, rfl⟩ := Option.map_eq_some_iff.1 hvalue
    cases fieldType with
    | string => exact .unset
    | time => exact absurd (hfits.required name hlookup) (by simpa using hname)
    | optionalString | optionalTime | optionalInt => exact .null

/-- All values of a condition are sound. -/
def TypedCondition.Sound (condition : TypedCondition) : Prop :=
  ∀ slot ∈ condition.slots, slot.2.value.Sound

instance (condition : TypedCondition) : Decidable condition.Sound :=
  inferInstanceAs (Decidable (∀ slot ∈ condition.slots, _))

/-- A condition is written as an object, which mirrors it. -/
theorem TypedCondition.exists_mirror {kind : RecordKind} {condition : TypedCondition}
    (hkind : kind.form.IsOpen) (hsound : condition.Sound) :
    ∃ object, Record.decode? kind condition.toJson = some object ∧
      Record.Mirrors condition.type [] (.typed condition) object := by
  obtain ⟨fields, hfields⟩ : ∃ fields, condition.toJson = .obj fields := ⟨_, rfl⟩
  obtain ⟨object, hobject, hopen, hfield⟩ : ∃ object,
      Record.decode? kind condition.toJson = some object ∧ object.form.IsOpen ∧
        ∀ name, object.field? name = some (Record.openField fields name) := by
    rw [hfields]
    cases kind with
    | typed type => exact hkind.elim
    | map => exact ⟨.map fields, rfl, trivial, fun _ => rfl⟩
    | json => exact ⟨.json (.obj fields), rfl, trivial, fun _ => rfl⟩
  refine ⟨object, hobject, rfl, hopen, fun name _ value hvalue => ?_⟩
  have hget : condition.slots.get? name = some value := hvalue
  have himage : object.field? name = some (.ofJson value.toJson) := by
    have hwritten : Entries.get? name fields =
        ((condition.slots.get? name).filter (· ≠ .null)).map FieldValue.toJson := by
      rw [← condition.field?_toJson, hfields]
      rfl
    rw [hfield, Record.openField, hwritten, hget]
    by_cases hnull : value = .null
    · rw [hnull]
      rfl
    · simp [Option.filter, hnull]
  obtain ⟨fieldType, -, hholds⟩ := Slots.holds_get? hget
  obtain ⟨slot, hmem, rfl⟩ := Slots.exists_mem_of_get? hget
  refine ⟨_, himage, FieldValue.shownAs_of_take? hholds (hsound slot hmem) fun text htext => ?_⟩
  rw [← not_or]
  intro htime
  rw [htext] at hholds
  simpa using hholds.time htime

section Lists

variable {α β : Type} {relation : α → β → Prop} {left : List α} {right : List β}

theorem exists_of_forall₂_getElem? (h : List.Forall₂ relation left right) {position : Nat} {a : α}
    (hleft : left[position]? = some a) :
    ∃ b, right[position]? = some b ∧ relation a b := by
  induction h generalizing position with
  | nil => cases hleft
  | cons hfirst _ ih =>
      cases position with
      | zero =>
          cases hleft
          exact ⟨_, rfl, hfirst⟩
      | succ position => exact ih hleft

theorem forall₂_set (h : List.Forall₂ relation left right) {a : α} {b : β} (hnew : relation a b)
    (position : Nat) : List.Forall₂ relation (left.set position a) (right.set position b) := by
  induction h generalizing position with
  | nil => exact .nil
  | cons hfirst hrest ih =>
      cases position with
      | zero => exact .cons hnew hrest
      | succ position => exact .cons hfirst (ih position)

end Lists

namespace Accessor

open Record (Mirrors)

variable {accessor : Accessor} {type : ConditionType} {kind : RecordKind}
  {now begun ended : Instant} {updates : List Update}

theorem carries_update (hfits : accessor.names.Fits type) (hnow : now.Civil)
    (hbasic : ∀ update ∈ updates, update.IsBasic) :
    (accessor.update now updates).Carries type [] [] := by
  have hall : (Update.applyAll accessor updates).Carries type [] [] :=
    Update.carries_applyAll hbasic hfits
  unfold update
  split
  · exact hall
  · exact hall.stamped hfits _ hnow

theorem carries_startBetween (hfits : accessor.names.Fits type) (hbegun : begun.Civil)
    (hended : ended.Civil) (hbasic : ∀ update ∈ updates, update.IsBasic) (name : String) :
    (accessor.startBetween begun ended name updates).Carries type
      [accessor.names.lastTransitionTime] [] := by
  have hname : (accessor.setType name).Carries type [accessor.names.lastTransitionTime]
      [accessor.names.lastTransitionTime] :=
    Edit.carries_assign trivial (fun _ _ => hfits.holdsTime_eq_false List.mem_cons_self)
      (List.subset_cons_self _ _)
  have htime : (accessor.setLastTransitionTimeIfExists begun).Carries type
      [accessor.names.lastTransitionTime] [] :=
    Edit.carries_assignIfExists_time hbegun (List.Subset.refl _)
  exact hname.bind fun _ => htime.bind fun _ => carries_update hfits hended hbasic

/-- The same condition is found in a list of conditions and in a list of their mirrors. -/
theorem findIndexFrom_eq_of_mirrors {conditions mirrors : List Record}
    (hfits : accessor.names.Fits type) (h : List.Forall₂ (Mirrors type []) conditions mirrors)
    (start : Nat) (name : String) :
    accessor.findIndexFrom start name mirrors = accessor.findIndexFrom start name conditions := by
  induction h generalizing start with
  | nil => rfl
  | cons hfirst _ ih =>
      obtain ⟨text, hvalue, himage⟩ :=
        hfirst.map_read_text hfits List.mem_cons_self List.not_mem_nil
      rw [findIndexFrom, findIndexFrom, Accessor.type, Accessor.type, hvalue, himage, ih]

theorem updateAt_mirrors {conditions mirrors after : List Record} {position : Nat}
    (hfits : accessor.names.Fits type) (hnow : now.Civil)
    (hbasic : ∀ update ∈ updates, update.IsBasic)
    (h : List.Forall₂ (Mirrors type []) conditions mirrors)
    (hcall : accessor.updateAt now position updates conditions = (.ok (), after)) :
    ∃ images, accessor.updateAt now position updates mirrors = (.ok (), images) ∧
      List.Forall₂ (Mirrors type []) after images := by
  unfold updateAt at hcall ⊢
  cases hrecord : conditions[position]? with
  | none =>
      have hmirror : mirrors[position]? = none := by
        rw [List.getElem?_eq_none_iff] at hrecord ⊢
        rwa [← h.length_eq]
      simp only [hrecord, Prod.mk.injEq, true_and] at hcall
      subst hcall
      exact ⟨mirrors, by rw [hmirror], h⟩
  | some record =>
      obtain ⟨mirror, hmirror, hmirrors⟩ := exists_of_forall₂_getElem? h hrecord
      simp only [hrecord, Prod.mk.injEq] at hcall
      obtain ⟨hresult, rfl⟩ := hcall
      obtain ⟨image, himage, hafter⟩ := carries_update hfits hnow hbasic record mirror _ ()
        hmirrors (Prod.ext hresult rfl)
      refine ⟨mirrors.set position image, ?_, forall₂_set h hafter position⟩
      simp only [hmirror, himage]

/-- A call that succeeds on a list of conditions succeeds on a list of their mirrors. -/
theorem updateListBetween_mirrors {conditions mirrors after : List Record} {name : String}
    (hfits : accessor.names.Fits type) (hkind : kind.form.IsOpen) (hbegun : begun.Civil)
    (hended : ended.Civil) (hbasic : ∀ update ∈ updates, update.IsBasic)
    (h : List.Forall₂ (Mirrors type []) conditions mirrors)
    (hcall : accessor.updateListBetween begun ended (.typed type) name updates conditions =
      (.ok (), after)) :
    ∃ images,
      accessor.updateListBetween begun ended kind name updates mirrors = (.ok (), images) ∧
      List.Forall₂ (Mirrors type []) after images := by
  have hfind : accessor.findIndex mirrors name = accessor.findIndex conditions name :=
    findIndexFrom_eq_of_mirrors hfits h 0 name
  unfold updateListBetween at hcall ⊢
  rw [hfind]
  cases hfound : accessor.findIndex conditions name with
  | error error => simp [hfound] at hcall
  | ok found =>
      simp only [hfound] at hcall ⊢
      cases found with
      | some position => exact updateAt_mirrors hfits hended hbasic h hcall
      | none =>
          cases hstart : (accessor.startBetween begun ended name updates).on
              (.blank (.typed type) begun) with
          | mk result record =>
              cases result with
              | error error => simp [hstart] at hcall
              | ok _ =>
                  simp only [hstart, Prod.mk.injEq, true_and] at hcall
                  subst hcall
                  have hcarries := carries_startBetween hfits hbegun hended hbasic name
                  obtain ⟨image, himage, hafter⟩ := hcarries _ _ _ _
                    (Record.mirrors_blank hfits hkind begun) hstart
                  refine ⟨mirrors ++ [image], by simp only [himage], ?_⟩
                  exact List.rel_append h (.cons hafter .nil)

/-- A call for the condition of a type, which begins at a time and ends at another. -/
structure Call where
  begun : Instant
  ended : Instant
  name : String
  updates : List Update

/-- A call with basic updates at times that their texts stand for. -/
def Call.IsBasic (call : Call) : Prop :=
  (call.begun.Civil ∧ call.ended.Civil) ∧ ∀ update ∈ call.updates, update.IsBasic

instance (call : Call) : Decidable call.IsBasic :=
  inferInstanceAs (Decidable (_ ∧ _))

/-- A call on a list of conditions. -/
def call (accessor : Accessor) (kind : RecordKind) (call : Call) (conditions : List Record) :
    Except AccessError Unit × List Record :=
  accessor.updateListBetween call.begun call.ended kind call.name call.updates conditions

/-- Calls on a list of conditions, one after the other up to the first that fails. -/
def run (accessor : Accessor) (kind : RecordKind) :
    List Call → List Record → Except AccessError Unit × List Record
  | [], conditions => (.ok (), conditions)
  | call :: rest, conditions =>
    match accessor.call kind call conditions with
    | (.ok (), updated) => run accessor kind rest updated
    | (.error error, updated) => (.error error, updated)

theorem run_cons_eq_ok {call : Call} {rest : List Call}
    {conditions after : List Record} :
    accessor.run kind (call :: rest) conditions = (.ok (), after) ↔
      ∃ updated, accessor.call kind call conditions = (.ok (), updated) ∧
        accessor.run kind rest updated = (.ok (), after) := by
  rw [run]
  cases accessor.call kind call conditions with
  | mk result updated => cases result <;> simp

/-- The calls of a run up to some point are a run. -/
theorem run_of_prefix {before calls : List Call} {conditions after : List Record}
    (hbefore : before <+: calls)
    (hrun : accessor.run kind calls conditions = (.ok (), after)) :
    ∃ between, accessor.run kind before conditions = (.ok (), between) := by
  induction before generalizing calls conditions with
  | nil => exact ⟨conditions, rfl⟩
  | cons call before ih =>
      obtain ⟨rest, rfl⟩ := hbefore
      obtain ⟨updated, hcall, hrest⟩ := run_cons_eq_ok.1 hrun
      obtain ⟨between, hbetween⟩ := ih (List.prefix_append before rest) hrest
      exact ⟨between, run_cons_eq_ok.2 ⟨updated, hcall, hbetween⟩⟩

theorem run_mirrors {conditions mirrors after : List Record} {calls : List Call}
    (hfits : accessor.names.Fits type) (hkind : kind.form.IsOpen)
    (hcalls : ∀ call ∈ calls, call.IsBasic)
    (h : List.Forall₂ (Mirrors type []) conditions mirrors)
    (hrun : accessor.run (.typed type) calls conditions = (.ok (), after)) :
    ∃ images, accessor.run kind calls mirrors = (.ok (), images) ∧
      List.Forall₂ (Mirrors type []) after images := by
  induction calls generalizing conditions mirrors with
  | nil =>
      cases hrun
      exact ⟨mirrors, rfl, h⟩
  | cons call rest ih =>
      obtain ⟨updated, hcall, hrest⟩ := run_cons_eq_ok.1 hrun
      obtain ⟨⟨hbegun, hended⟩, hbasic⟩ := hcalls call List.mem_cons_self
      obtain ⟨images, himages, hupdated⟩ :=
        updateListBetween_mirrors hfits hkind hbegun hended hbasic h hcall
      obtain ⟨last, hlast, hafter⟩ :=
        ih (fun other hmem => hcalls other (List.mem_cons_of_mem _ hmem)) hupdated hrest
      exact ⟨last, run_cons_eq_ok.2 ⟨images, himages, hlast⟩, hafter⟩

end Accessor

theorem exists_mirrors {type : ConditionType} {kind : RecordKind} {conditions : List TypedCondition}
    (hkind : kind.form.IsOpen)
    (hconditions : ∀ condition ∈ conditions, condition.type = type ∧ condition.Sound) :
    ∃ objects, conditions.mapM (fun condition => Record.decode? kind condition.toJson) =
        some objects ∧
      List.Forall₂ (Record.Mirrors type []) (conditions.map .typed) objects := by
  induction conditions with
  | nil => exact ⟨[], rfl, .nil⟩
  | cons condition rest ih =>
      obtain ⟨rfl, hsound⟩ := hconditions condition List.mem_cons_self
      obtain ⟨object, hobject, hmirrors⟩ := condition.exists_mirror hkind hsound
      obtain ⟨objects, hobjects, hrest⟩ := ih fun other hmem =>
        hconditions other (List.mem_cons_of_mem _ hmem)
      refine ⟨object :: objects, ?_, .cons hmirrors hrest⟩
      rw [List.mapM_cons, hobject, hobjects]
      rfl

/-- A time cut off to whole seconds, and any other value as it is. -/
def PartValue.truncate : PartValue → PartValue
  | .time value => .time (value.map Instant.truncate)
  | value => value

/-- The same error of a record of another type. -/
def AccessError.renamed (typeName : String) : AccessError → AccessError
  | .notARecord field _ => .notARecord field typeName
  | .missingField field _ => .missingField field typeName
  | .convert field _ expected found => .convert field typeName expected found
  | .index position source => .index position (source.renamed typeName)

namespace Accessor

open Record (Mirrors)

/-- All parts that a typed condition has read the same in an object, times up to whole seconds.  A
status that is none is refused in the same words. -/
def ReadsAlike (accessor : Accessor) (record object : Record) : Prop :=
  ∀ part, accessor.hasPart record part = .ok true →
    accessor.getPart object part =
      ((accessor.getPart record part).map PartValue.truncate).mapError
        (AccessError.renamed "JSON object")

variable {accessor : Accessor} {type : ConditionType}

/-- A status is read the same, or refused for the same text. -/
theorem status_of_mirrors {record mirror : Record} (hfits : accessor.names.Fits type)
    (h : Mirrors type [] record mirror) :
    accessor.status mirror =
      (accessor.status record).mapError (AccessError.renamed "JSON object") := by
  obtain ⟨text, htext, hshown⟩ := h.map_read_text hfits
    (show accessor.names.status ∈ _ by simp [FieldNames.texts]) List.not_mem_nil
  obtain ⟨value, hvalue, rfl⟩ := Except.map_eq_ok_iff.1 htext
  obtain ⟨image, himage, hsame⟩ := Except.map_eq_ok_iff.1 hshown
  unfold Accessor.status
  simp only [hvalue, himage, hsame, Record.typeName_of_isOpen h.isOpen, bind, Except.bind]
  by_cases hempty : value.text.isEmpty
  · rw [if_pos hempty, if_pos hempty]
    rfl
  · rw [if_neg hempty, if_neg hempty]
    cases Status.ofName? value.text <;> rfl

theorem readsAlike_of_mirrors {record mirror : Record} (hfits : accessor.names.Fits type)
    (h : Mirrors type [] record mirror) : accessor.ReadsAlike record mirror := by
  intro part hhas
  cases part with
  | type =>
      obtain ⟨text, hvalue, himage⟩ :=
        h.map_read_text hfits List.mem_cons_self List.not_mem_nil
      rw [getPart, getPart, Accessor.type, Accessor.type, hvalue, himage]
      rfl
  | status =>
      rw [getPart, getPart, status_of_mirrors hfits h]
      cases accessor.status record <;> rfl
  | reason =>
      obtain ⟨text, hvalue, himage⟩ := h.map_read_text hfits
        (show accessor.names.reason ∈ _ by simp [FieldNames.texts]) List.not_mem_nil
      rw [getPart, getPart, Accessor.reason, Accessor.reason, hvalue, himage]
      rfl
  | message =>
      obtain ⟨text, hvalue, himage⟩ := h.map_read_text hfits
        (show accessor.names.message ∈ _ by simp [FieldNames.texts]) List.not_mem_nil
      rw [getPart, getPart, Accessor.message, Accessor.message, hvalue, himage]
      rfl
  | lastUpdateTime =>
      obtain ⟨time, hvalue, himage⟩ := h.map_read_time hfits
        (show accessor.names.lastUpdateTime ∈ _ by simp [FieldNames.times]) List.not_mem_nil hhas
      rw [getPart, getPart, Accessor.lastUpdateTime, Accessor.lastUpdateTime, hvalue, himage]
      rfl
  | lastTransitionTime =>
      obtain ⟨time, hvalue, himage⟩ := h.map_read_time hfits
        (show accessor.names.lastTransitionTime ∈ _ by simp [FieldNames.times])
        List.not_mem_nil hhas
      rw [getPart, getPart, Accessor.lastTransitionTime, Accessor.lastTransitionTime, hvalue,
        himage]
      rfl
  | observedGeneration =>
      obtain ⟨value, hvalue, himage⟩ :=
        h.read_observedGeneration hfits List.not_mem_nil hhas
      rw [getPart, getPart, Accessor.observedGeneration, Accessor.observedGeneration, hvalue,
        himage]
      rfl

/-- Calls that succeed on conditions of a type succeed on the objects that these are written as;
after every call both lists have the same length, and read alike at each position. -/
theorem run_readsAlike {kind : RecordKind} {conditions : List TypedCondition} {calls : List Call}
    {after : List Record} (hnames : accessor.names = {}) (hkind : kind = .map ∨ kind = .json)
    (hconditions : ∀ condition ∈ conditions, condition.type = type ∧ condition.Sound)
    (hcalls : ∀ call ∈ calls, call.IsBasic)
    (hrun : accessor.run (.typed type) calls (conditions.map .typed) = (.ok (), after)) :
    ∃ objects, conditions.mapM (fun condition => Record.decode? kind condition.toJson) =
        some objects ∧
      ∀ before, before <+: calls → ∃ records images,
        accessor.run (.typed type) before (conditions.map .typed) = (.ok (), records) ∧
          accessor.run kind before objects = (.ok (), images) ∧
          List.Forall₂ accessor.ReadsAlike records images := by
  have hfits : accessor.names.Fits type := by
    rw [hnames]
    exact FieldNames.fits_default type
  have hopen : kind.form.IsOpen := by
    rcases hkind with rfl | rfl <;> trivial
  obtain ⟨objects, hobjects, hmirrors⟩ := exists_mirrors hopen hconditions
  refine ⟨objects, hobjects, fun before hbefore => ?_⟩
  obtain ⟨records, hrecords⟩ := run_of_prefix hbefore hrun
  obtain ⟨images, himages, hrelated⟩ := run_mirrors hfits hopen
    (fun call hmem => hcalls call (hbefore.subset hmem)) hmirrors hrecords
  exact ⟨records, images, hrecords, himages,
    hrelated.imp fun _ _ hmirror => readsAlike_of_mirrors hfits hmirror⟩

/-- A condition with half a second in its time turns true, and another one is appended. -/
theorem run_readsAlike_ready :
    let unset := TypedCondition.blank .condition ⟨0, 500000000, by decide⟩
    let calls : List Call :=
      [⟨.ofSeconds 60, .ofSeconds 60, "", [.status .true]⟩,
        ⟨.ofSeconds 90, .ofSeconds 91, "Ready", [.reason "Up"]⟩]
    ∃ objects records images,
      [unset].mapM (fun condition => Record.decode? .json condition.toJson) = some objects ∧
        run {} (.typed .condition) calls [.typed unset] = (.ok (), records) ∧
        run {} .json calls objects = (.ok (), images) ∧
        List.Forall₂ (ReadsAlike {}) records images := by
  intro unset calls
  obtain ⟨objects, hobjects, hall⟩ := @run_readsAlike {} .condition .json [unset] calls _ rfl
    (.inr rfl) (by decide) (by decide) (Prod.ext (by decide +kernel) rfl)
  obtain ⟨records, images, hrecords, himages, halike⟩ := hall calls (List.prefix_refl calls)
  exact ⟨objects, records, images, hobjects, hrecords, himages, halike⟩

end Accessor

end Reconciler.Condition
