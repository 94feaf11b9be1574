import Reconciler.Condition.List
/-!
What an edit of a condition can reach.  Every update writes to a few fields, by the names that the
accessor knows them by, and leaves all other fields as they are stored; so does an update that
fails on the way.
-/
namespace Reconciler.Condition

namespace Record

/-- What kind of record a value is, with the value itself if it has no fields. -/
inductive Form where
  | typed (type : ConditionType)
  | map
  | object
  | bare (value : Json)

/-- The form of a record; no assignment changes it. -/
def form : Record → Form
  | .typed condition => .typed condition.type
  | .map _ => .map
  | .json (.obj _) => .object
  | .json value => .bare value

/-- What is stored under a name: a value of the slot's type, or a JSON value. -/
def stored? (record : Record) (name : String) : Option (FieldValue ⊕ Json) :=
  match record with
  | .typed condition => (condition.slots.get? name).map .inl
  | .map fields => (Entries.get? name fields).map .inr
  | .json (.obj fields) => (Entries.get? name fields).map .inr
  | .json _ => none

/-- Whether records of a form have a field. -/
def Form.hasField (name : String) : Form → Bool
  | .typed type => (type.fields.lookup name).isSome
  | .map | .object => true
  | .bare _ => false

/-- How a record of a form reads what is stored. -/
def Form.reads : Form → Option (FieldValue ⊕ Json) → Option FieldValue
  | .typed _, stored => stored.bind Sum.getLeft?
  | .map, stored | .object, stored => some (((stored.bind Sum.getRight?).map .ofJson).getD .null)
  | .bare _, _ => none

/-- Two records of one form that differ at most in fields with the given names. -/
structure AgreeOff (names : List String) (before after : Record) : Prop where
  form_eq : after.form = before.form
  stored_eq : ∀ name ∉ names, after.stored? name = before.stored? name

theorem field?_eq_reads (record : Record) (name : String) :
    record.field? name = record.form.reads (record.stored? name) := by
  cases record with
  | typed condition =>
      cases h : condition.slots.get? name <;> simp [field?, form, stored?, Form.reads, h]
  | map fields =>
      cases h : Entries.get? name fields <;> simp [field?, form, stored?, Form.reads, openField, h]
  | json value =>
      cases value with
      | obj fields =>
          cases h : Entries.get? name fields <;>
            simp [field?, form, stored?, Form.reads, openField, h]
      | _ => rfl

theorem isSome_field? (record : Record) (name : String) :
    (record.field? name).isSome = record.form.hasField name := by
  cases record with
  | typed condition =>
      rw [field?, Slots.isSome_get?, condition.conforms]
      rfl
  | map fields => rfl
  | json value => cases value <;> rfl

theorem stored?_of_form_eq_bare {record : Record} {value : Json} (hform : record.form = .bare value)
    (name : String) : record.stored? name = none := by
  cases record with
  | json value => cases value <;> first | rfl | cases hform
  | _ => cases hform

theorem isRecord_eq (record : Record) :
    record.isRecord = match record.form with | .bare _ => false | _ => true := by
  cases record with
  | json value => cases value <;> rfl
  | _ => rfl

theorem isRecord_of_field? {record : Record} {name : String} {value : FieldValue}
    (hfield : record.field? name = some value) : record.isRecord = true := by
  cases record with
  | json json => cases json <;> first | rfl | cases hfield
  | _ => rfl

theorem ensureRecord_eq_ok_iff {record : Record} {field : String} {passed : Unit} :
    record.ensureRecord field = .ok passed ↔ record.isRecord = true := by
  unfold ensureRecord
  cases record.isRecord <;> simp

/-- A field can be read as a type if the type takes its value. -/
theorem read_eq_ok_iff {record : Record} {field : String} {type : FieldType} {taken : FieldValue} :
    record.read field type = .ok taken ↔
      ∃ value, record.field? field = some value ∧ type.take? value = some taken := by
  unfold read
  constructor
  · intro hread
    obtain ⟨_, -, hread⟩ := Except.bind_eq_ok_iff.1 hread
    cases hfield : record.field? field with
    | none =>
        simp only [hfield] at hread
        cases hread
    | some value =>
        simp only [hfield] at hread
        cases htake : type.take? value with
        | none =>
            simp only [htake] at hread
            cases hread
        | some found =>
            simp only [htake] at hread
            exact ⟨value, rfl, htake.trans (congrArg some (Except.ok.inj hread))⟩
  · rintro ⟨value, hfield, htake⟩
    have hrecord := isRecord_of_field? hfield
    refine Except.bind_eq_ok_iff.2 ⟨(), ensureRecord_eq_ok_iff.2 hrecord, ?_⟩
    simp only [hfield, htake]
    rfl

theorem typeName_eq (record : Record) :
    record.typeName = match record.form with
      | .typed type => type.name
      | .map | .object => "JSON object"
      | .bare value => "JSON " ++ value.kindName := by
  cases record with
  | json value => cases value <;> rfl
  | _ => rfl

namespace AgreeOff

variable {names : List String} {before between after : Record}

theorem refl (names : List String) (record : Record) : record.AgreeOff names record :=
  ⟨rfl, fun _ _ => rfl⟩

theorem trans (hfirst : before.AgreeOff names between) (hsecond : between.AgreeOff names after) :
    before.AgreeOff names after where
  form_eq := hsecond.form_eq.trans hfirst.form_eq
  stored_eq name hname := (hsecond.stored_eq name hname).trans (hfirst.stored_eq name hname)

instance : Std.Refl (AgreeOff names) := ⟨refl names⟩

instance : Trans (AgreeOff names) (AgreeOff names) (AgreeOff names) := ⟨trans⟩

theorem mono {more : List String} (hsub : names ⊆ more) (h : before.AgreeOff names after) :
    before.AgreeOff more after where
  form_eq := h.form_eq
  stored_eq name hname := h.stored_eq name fun hmem => hname (hsub hmem)

theorem field?_eq (h : before.AgreeOff names after) {name : String} (hname : name ∉ names) :
    after.field? name = before.field? name := by
  rw [field?_eq_reads, field?_eq_reads, h.form_eq, h.stored_eq name hname]

theorem ensureRecord_eq (h : before.AgreeOff names after) (field : String) :
    after.ensureRecord field = before.ensureRecord field := by
  rw [ensureRecord, ensureRecord, isRecord_eq, isRecord_eq, typeName_eq, typeName_eq, h.form_eq]

/-- A field that is out of reach reads as before, with the same error if it cannot be read. -/
theorem read_eq (h : before.AgreeOff names after) {field : String} (hfield : field ∉ names)
    (type : FieldType) : after.read field type = before.read field type := by
  rw [read, read, h.ensureRecord_eq, h.field?_eq hfield, typeName_eq after, typeName_eq before,
    h.form_eq]

end AgreeOff

/-! Assignments. -/

/-- What a record of a form stores when a value is assigned to a field, if it takes the value. -/
def Form.store? (field : String) (value : FieldValue) : Form → Option (FieldValue ⊕ Json)
  | .typed type => ((type.fields.lookup field).bind (·.take? value)).map .inl
  | .map | .object => some (.inr value.toJson)
  | .bare _ => none

theorem get?_insert_self (field : String) (value : Json) (fields : List (String × Json)) :
    Entries.get? field (Entries.insert field value fields) = some value := by
  rw [Entries.get?_insert, if_pos Std.ReflCmp.compare_self]

theorem get?_insert_ne {name field : String} (hne : name ≠ field) (value : Json)
    (fields : List (String × Json)) :
    Entries.get? name (Entries.insert field value fields) = Entries.get? name fields := by
  rw [Entries.get?_insert, if_neg fun hsame => hne (Std.LawfulEqOrd.eq_of_compare hsame)]

/-- An assignment reaches one field. -/
theorem setField_agreeOff {record after : Record} {field : String} {value : FieldValue}
    (h : record.setField field value = .ok after) : record.AgreeOff [field] after := by
  have hne : ∀ name ∉ [field], name ≠ field := fun name hname => by simpa using hname
  cases record with
  | typed condition =>
      cases hset : condition.set field value with
      | error error => simp [setField, hset, Except.map] at h
      | ok assigned =>
          simp only [setField, hset, Except.map, Except.ok.injEq] at h
          subst h
          obtain ⟨htype, hslots⟩ := TypedCondition.set_eq_ok hset
          refine ⟨congrArg Form.typed htype, fun name hname => ?_⟩
          simp only [stored?, Slots.get?_set_ne (hne name hname) hslots]
  | map fields =>
      cases h
      exact ⟨rfl, fun name hname => by rw [stored?, stored?, get?_insert_ne (hne name hname)]⟩
  | json target =>
      cases target with
      | obj fields =>
          cases h
          exact ⟨rfl, fun name hname => by rw [stored?, stored?, get?_insert_ne (hne name hname)]⟩
      | _ => cases h

theorem setField_stored {record after : Record} {field : String} {value : FieldValue}
    (h : record.setField field value = .ok after) :
    ∃ stored, record.form.store? field value = some stored ∧ after.stored? field = some stored := by
  cases record with
  | typed condition =>
      cases hset : condition.set field value with
      | error error => simp [setField, hset, Except.map] at h
      | ok assigned =>
          simp only [setField, hset, Except.map, Except.ok.injEq] at h
          subst h
          obtain ⟨_, hslots⟩ := TypedCondition.set_eq_ok hset
          obtain ⟨type, taken, hlookup, htaken, hget⟩ := Slots.get?_set_self hslots
          rw [condition.conforms] at hlookup
          exact ⟨.inl taken, by simp [form, Form.store?, hlookup, htaken],
            by simp [stored?, hget]⟩
  | map fields =>
      cases h
      exact ⟨.inr value.toJson, rfl, by rw [stored?, get?_insert_self]; rfl⟩
  | json target =>
      cases target with
      | obj fields =>
          cases h
          exact ⟨.inr value.toJson, rfl, by rw [stored?, get?_insert_self]; rfl⟩
      | _ => cases h

theorem assign_eq_ok_iff {record after : Record} {field : String} {value : FieldValue} :
    record.assign field value = .ok after ↔
      record.isRecord = true ∧ record.setField field value = .ok after := by
  unfold assign
  constructor
  · intro hassign
    obtain ⟨_, hrecord, hassign⟩ := Except.bind_eq_ok_iff.1 hassign
    refine ⟨ensureRecord_eq_ok_iff.1 hrecord, ?_⟩
    split at hassign
    · rename_i assigned hset
      cases hassign
      exact hset
    all_goals cases hassign
  · rintro ⟨hrecord, hset⟩
    refine Except.bind_eq_ok_iff.2 ⟨(), ensureRecord_eq_ok_iff.2 hrecord, ?_⟩
    rw [hset]
    rfl

theorem has_eq_ok_iff {record : Record} {field : String} {found : Bool} :
    record.has field = .ok found ↔
      record.isRecord = true ∧ found = (record.field? field).isSome := by
  unfold has
  rw [Except.bind_eq_ok_iff]
  constructor
  · rintro ⟨_, hrecord, hfound⟩
    exact ⟨ensureRecord_eq_ok_iff.1 hrecord, (Except.ok.inj hfound).symm⟩
  · rintro ⟨hrecord, rfl⟩
    exact ⟨(), ensureRecord_eq_ok_iff.2 hrecord, rfl⟩

end Record

/-! The fields that updates write to. -/

namespace FieldNames

/-- The fields that hold the state of a condition. -/
def state (names : FieldNames) : List String :=
  [names.status, names.reason, names.message, names.observedGeneration]

/-- The fields that hold the timestamps of a condition. -/
def times (names : FieldNames) : List String :=
  [names.lastTransitionTime, names.lastUpdateTime]

/-- No two parts share a field. -/
def Distinct (names : FieldNames) : Prop :=
  (names.type :: (names.state ++ names.times)).Nodup

instance (names : FieldNames) : Decidable names.Distinct :=
  inferInstanceAs (Decidable (List.Nodup _))

variable {names : FieldNames}

theorem Distinct.type_not_mem (h : names.Distinct) : names.type ∉ names.state ++ names.times :=
  (List.nodup_cons.1 h).1

theorem Distinct.not_mem_state (h : names.Distinct) {field : String}
    (hfield : field ∈ names.times) : field ∉ names.state :=
  fun hmem => (List.nodup_append.1 (List.nodup_cons.1 h).2).2.2 field hmem field hfield rfl

theorem Distinct.times_ne (h : names.Distinct) :
    names.lastTransitionTime ≠ names.lastUpdateTime := by
  have htimes : names.times.Nodup := (List.nodup_append.1 (List.nodup_cons.1 h).2).2.1
  simpa [times] using htimes

/-- What an update of the state writes: texts, and a number to the observed generation. -/
inductive Writes (names : FieldNames) : String → FieldValue → Prop where
  | status (text : String) : Writes names names.status (.string text)
  | reason (text : String) : Writes names names.reason (.string text)
  | message (text : String) : Writes names names.message (.string text)
  | observedGeneration (generation : Int) :
      Writes names names.observedGeneration (.int generation)

theorem Writes.mem_state {field : String} {value : FieldValue} (h : names.Writes field value) :
    field ∈ names.state := by
  cases h <;> simp [state]

end FieldNames

namespace Edit

/-- However an edit ends, the records before and after it are related. -/
def Leads {α : Type} (relation : Record → Record → Prop) (edit : Edit α) : Prop :=
  ∀ record : Record, relation record (edit.on record).2

/-- However an edit ends, it has written to no other fields. -/
def Touches {α : Type} (fields : List String) (edit : Edit α) : Prop :=
  ∀ record : Record, record.AgreeOff fields (edit.on record).2

variable {α β : Type} {fields : List String}

section Leads

variable {relation : Record → Record → Prop} [Std.Refl relation]

theorem leads_ofExcept (result : Except AccessError α) :
    Leads relation (Attempt.ofExcept result : Edit α) :=
  fun record => Std.Refl.refl record

variable [Trans relation relation relation]

omit [Std.Refl relation] in
/-- What one edit and then another leads to is related step by step. -/
theorem Leads.bind {edit : Edit α} {next : α → Edit β} (h : edit.Leads relation)
    (hnext : ∀ value, (next value).Leads relation) : (edit >>= next).Leads relation := by
  intro record
  have hfirst := h record
  rw [Attempt.on_bind]
  cases hedit : edit.on record with
  | mk result changed =>
      rw [hedit] at hfirst
      cases result with
      | ok value => exact Trans.trans hfirst (hnext value changed)
      | error error => exact hfirst

/-- Taking over a state is a sequence of assignments, whichever of them are reached. -/
theorem leads_copying {writer : Accessor}
    (hassign : ∀ field value, writer.names.Writes field value →
      (assign field value).Leads relation)
    (reader : Accessor) (source : Record) : (copying reader writer source).Leads relation := by
  refine Leads.bind (leads_ofExcept _) fun status => ?_
  refine Leads.bind (hassign _ _ (.status _)) fun _ => ?_
  refine Leads.bind (leads_ofExcept _) fun reason => ?_
  refine Leads.bind (hassign _ _ (.reason _)) fun _ => ?_
  refine Leads.bind (leads_ofExcept _) fun message => ?_
  refine Leads.bind (hassign _ _ (.message _)) fun _ => ?_
  refine Leads.bind (leads_ofExcept _) fun observed => ?_
  cases observed with
  | false => exact leads_ofExcept (.ok ())
  | true =>
      refine Leads.bind (leads_ofExcept _) fun generation => ?_
      exact hassign _ _ (.observedGeneration _)

end Leads

theorem Touches.agreeOff {edit : Edit α} {record after : Record} {result : Except AccessError α}
    (h : edit.Touches fields) (hedit : edit.on record = (result, after)) :
    record.AgreeOff fields after := by
  have hrecord := h record
  rwa [hedit] at hrecord

theorem touches_pure (value : α) : (pure value : Edit α).Touches fields :=
  fun record => .refl fields record

theorem touches_reading (read : Record → Except AccessError α) :
    (reading read).Touches fields :=
  fun record => .refl fields record

theorem Touches.mono {more : List String} {edit : Edit α} (hsub : fields ⊆ more)
    (h : edit.Touches fields) : edit.Touches more :=
  fun record => (h record).mono hsub

theorem Touches.bind {edit : Edit α} {next : α → Edit β} (h : edit.Touches fields)
    (hnext : ∀ value, (next value).Touches fields) : (edit >>= next).Touches fields :=
  @Leads.bind _ _ (Record.AgreeOff fields) _ _ _ h hnext

theorem setField_of_assign {field : String} {value : FieldValue} {record after : Record}
    (h : (assign field value).on record = (.ok (), after)) :
    record.setField field value = .ok after := by
  rw [on_assign] at h
  cases hassign : record.assign field value with
  | error error => simp [hassign] at h
  | ok assigned =>
      simp only [hassign, Prod.mk.injEq, true_and] at h
      rw [← h]
      exact (Record.assign_eq_ok_iff.1 hassign).2

theorem touches_assign {field : String} (hfield : field ∈ fields) (value : FieldValue) :
    (assign field value).Touches fields := by
  intro record
  rw [on_assign]
  cases hassign : record.assign field value with
  | error error => exact .refl fields record
  | ok assigned =>
      have hset := (Record.assign_eq_ok_iff.1 hassign).2
      exact (Record.setField_agreeOff hset).mono (by simpa using hfield)

theorem touches_assignIfExists {field : String} (hfield : field ∈ fields) (value : FieldValue) :
    (assignIfExists field value).Touches fields := by
  apply Touches.bind (touches_reading _)
  intro found
  cases found with
  | false => exact touches_pure ()
  | true => exact touches_assign hfield value

theorem Touches.stamped {names : FieldNames} {edit : Edit Unit} (h : edit.Touches fields)
    (htimes : names.times ⊆ fields) (transition : Transition) (now : Instant) :
    (stamped names transition now edit).Touches fields := by
  have htransition : (assignIfExists names.lastTransitionTime (.time now)).Touches fields :=
    touches_assignIfExists (htimes (by simp [FieldNames.times])) _
  have hupdate : (assignIfExists names.lastUpdateTime (.time now)).Touches fields :=
    touches_assignIfExists (htimes (by simp [FieldNames.times])) _
  apply Touches.bind (touches_reading _)
  intro before
  apply Touches.bind h
  intro _
  apply Touches.bind (touches_reading _)
  intro after
  by_cases hsame : after ≠ before
  · rw [if_pos hsame]
    exact htransition.bind fun _ => hupdate
  · rw [if_neg hsame]
    exact (touches_pure ()).bind fun _ => hupdate

end Edit

namespace Update

/-- An update that keeps no timestamps of its own. -/
def IsPlain : Update → Prop
  | .timestamps _ _ _ => False
  | _ => True

section Leads

variable {relation : Record → Record → Prop} [Std.Refl relation]
  [Trans relation relation relation] {accessor : Accessor}

/-- A plain update is a sequence of assignments to the state. -/
theorem IsPlain.leads
    (hassign : ∀ field value, accessor.names.Writes field value →
      (Edit.assign field value).Leads relation)
    {update : Update} (hplain : update.IsPlain) : (apply accessor update).Leads relation := by
  cases update with
  | status value => exact hassign _ _ (.status _)
  | reason text => exact hassign _ _ (.reason _)
  | message text => exact hassign _ _ (.message _)
  | observedGeneration generation => exact hassign _ _ (.observedGeneration _)
  | copy reader source => exact Edit.leads_copying hassign _ source
  | timestamps transition now updates => exact hplain.elim

theorem leads_applyAll
    (hassign : ∀ field value, accessor.names.Writes field value →
      (Edit.assign field value).Leads relation)
    {updates : List Update} (hplain : ∀ update ∈ updates, update.IsPlain) :
    (applyAll accessor updates).Leads relation := by
  induction updates with
  | nil => exact Edit.leads_ofExcept (.ok ())
  | cons update rest ih =>
      have hfirst := (hplain update List.mem_cons_self).leads hassign
      exact hfirst.bind fun _ => ih fun other hmem => hplain other (List.mem_cons_of_mem _ hmem)

end Leads

theorem touches_applyAll_of_isPlain {updates : List Update}
    (hplain : ∀ update ∈ updates, update.IsPlain) (accessor : Accessor) :
    (applyAll accessor updates).Touches accessor.names.state :=
  leads_applyAll (fun _ _ hwrites => Edit.touches_assign hwrites.mem_state _) hplain

theorem touches_plain (accessor : Accessor) (update : Update) (hplain : update.IsPlain) :
    (apply accessor update).Touches (accessor.names.state ++ accessor.names.times) :=
  Edit.Touches.mono (List.subset_append_left _ _)
    (hplain.leads fun _ _ hwrites => Edit.touches_assign hwrites.mem_state _)

mutual

/-- No update writes to anything but the state and the timestamps. -/
theorem touches_apply (accessor : Accessor) :
    (update : Update) →
      (apply accessor update).Touches (accessor.names.state ++ accessor.names.times)
  | .status value => touches_plain accessor (.status value) trivial
  | .reason text => touches_plain accessor (.reason text) trivial
  | .message text => touches_plain accessor (.message text) trivial
  | .observedGeneration generation =>
      touches_plain accessor (.observedGeneration generation) trivial
  | .copy reader source => touches_plain accessor (.copy reader source) trivial
  | .timestamps transition now updates =>
      (touches_applyAll accessor updates).stamped (List.subset_append_right _ _) transition now

theorem touches_applyAll (accessor : Accessor) :
    (updates : List Update) →
      (applyAll accessor updates).Touches (accessor.names.state ++ accessor.names.times)
  | [] => Edit.touches_pure ()
  | update :: rest =>
      (touches_apply accessor update).bind fun _ => touches_applyAll accessor rest

end

end Update

namespace Accessor

theorem touches_update (accessor : Accessor) (now : Instant) (updates : List Update) :
    (accessor.update now updates).Touches (accessor.names.state ++ accessor.names.times) := by
  have hall := Update.touches_applyAll accessor updates
  unfold update
  split
  · exact hall
  · exact hall.stamped (List.subset_append_right _ _) _ now

end Accessor

end Reconciler.Condition
