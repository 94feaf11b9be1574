import Reconciler.Proofs.Condition.Keyed
import Reconciler.Proofs.Condition.RoundTrip
import Reconciler.Proofs.Condition.Transitions
/-!
Taking over the state of another condition.  Status, reason and message arrive as they are read
from the source, and so does the observed generation if the source has such a field.  What counts
for it is whether the field is there, and not whether it holds anything: an object in JSON has every
field, so that one without an observed generation hands over zero.
-/
namespace Reconciler.Condition

/-- The integers that a typed condition holds have 64 bits. -/
def TypedCondition.Sized (condition : TypedCondition) : Prop :=
  ∀ (name : String) (value : Int),
    condition.slots.get? name = some (.int value) → FieldValue.isInt64 value = true

namespace Record

theorem isInt64_of_openField {fields : List (String × Json)} {name : String} {value : Int}
    (h : openField fields name = .int value) : FieldValue.isInt64 value = true := by
  unfold openField at h
  cases hget : Entries.get? name fields with
  | none => simp [hget] at h
  | some json =>
      rw [hget, Option.map_some, Option.getD_some] at h
      exact FieldValue.isInt64_of_ofJson h

/-- Only typed conditions could hold other integers: a JSON value is read as an integer only if it
has 64 bits. -/
theorem isInt64_of_field? {record : Record} {name : String} {value : Int}
    (hsized : ∀ condition, record = .typed condition → condition.Sized)
    (hfield : record.field? name = some (.int value)) : FieldValue.isInt64 value = true := by
  cases record with
  | typed condition => exact hsized condition rfl name value hfield
  | map fields => exact isInt64_of_openField (Option.some.inj hfield)
  | json json =>
      cases json with
      | obj fields => exact isInt64_of_openField (Option.some.inj hfield)
      | _ => cases hfield

/-- Whether records of a form take a value for a field. -/
def Form.Takes (form : Form) (field : String) (value : FieldValue) : Prop :=
  (form.store? field value).isSome

instance (form : Form) (field : String) (value : FieldValue) : Decidable (form.Takes field value) :=
  inferInstanceAs (Decidable (_ = true))

theorem Form.Takes.isRecord {record : Record} {field : String} {value : FieldValue}
    (h : record.form.Takes field value) : record.isRecord = true := by
  rw [isRecord_eq]
  cases hform : record.form with
  | bare value =>
      rw [hform] at h
      cases h
  | _ => rfl

end Record

namespace Edit

open Record

variable {record after : Record} {assignments : List (String × FieldValue)}

/-- Assign to several fields in turn. -/
def assignAll : List (String × FieldValue) → Edit Unit
  | [] => pure ()
  | (field, value) :: rest => do
    assign field value
    assignAll rest

theorem touches_assignAll : (assignAll assignments).Touches (assignments.map (·.1)) := by
  induction assignments with
  | nil => exact touches_pure ()
  | cons assignment rest ih =>
      refine (touches_assign (by simp) _).bind fun _ => ?_
      exact ih.mono (List.subset_cons_self _ _)

theorem exists_assign_iff {field : String} {value : FieldValue} :
    (∃ after, (assign field value).on record = (.ok (), after)) ↔
      record.form.Takes field value := by
  constructor
  · rintro ⟨after, hassign⟩
    obtain ⟨stored, hstore, -⟩ := setField_stored (setField_of_assign hassign)
    exact Option.isSome_iff_exists.2 ⟨stored, hstore⟩
  · intro htakes
    obtain ⟨stored, hstore⟩ := Option.isSome_iff_exists.1 htakes
    obtain ⟨after, hset⟩ := exists_setField hstore
    refine ⟨after, ?_⟩
    rw [on_assign, assign_eq_ok_iff.2 ⟨htakes.isRecord, hset⟩]

/-- Assignments all succeed if each would by itself. -/
theorem exists_assignAll_iff :
    (∃ after, (assignAll assignments).on record = (.ok (), after)) ↔
      ∀ assignment ∈ assignments, record.form.Takes assignment.1 assignment.2 := by
  induction assignments generalizing record with
  | nil => exact iff_of_true ⟨record, rfl⟩ (by simp)
  | cons assignment rest ih =>
      rw [List.forall_mem_cons, ← exists_assign_iff]
      constructor
      · rintro ⟨after, hall⟩
        obtain ⟨_, assigned, hfirst, hrest⟩ := Attempt.on_bind_eq_ok.1 hall
        have hform := ((touches_assign (List.mem_singleton_self _) _).agreeOff hfirst).form_eq
        exact ⟨⟨assigned, hfirst⟩, hform ▸ ih.1 ⟨after, hrest⟩⟩
      · rintro ⟨⟨assigned, hfirst⟩, hrest⟩
        have hform := ((touches_assign (List.mem_singleton_self _) _).agreeOff hfirst).form_eq
        obtain ⟨after, hafter⟩ := ih.2 (hform.symm ▸ hrest)
        exact ⟨after, Attempt.on_bind_eq_ok.2 ⟨(), assigned, hfirst, hafter⟩⟩

/-- Assignments to different fields do not undo each other. -/
theorem assignAll_stored (hfields : (assignments.map (·.1)).Nodup)
    (hall : (assignAll assignments).on record = (.ok (), after)) :
    ∀ assignment ∈ assignments, ∃ stored,
      record.form.store? assignment.1 assignment.2 = some stored ∧
        after.stored? assignment.1 = some stored := by
  induction assignments generalizing record with
  | nil => simp
  | cons assignment rest ih =>
      obtain ⟨hfirst, hrest⟩ := List.nodup_cons.1 hfields
      obtain ⟨_, assigned, hassign, hall⟩ := Attempt.on_bind_eq_ok.1 hall
      have hset := setField_of_assign hassign
      have hform := (setField_agreeOff hset).form_eq
      rw [List.forall_mem_cons]
      refine ⟨?_, hform ▸ ih hrest hall⟩
      obtain ⟨stored, hstore, hstored⟩ := setField_stored hset
      refine ⟨stored, hstore, ?_⟩
      rw [(touches_assignAll.agreeOff hall).stored_eq _ hfirst, hstored]

end Edit

/-- The state of a condition as one that takes it over reads it. -/
structure State where
  status : Status
  reason : String
  message : String
  /-- None if there is no such field. -/
  generation : Option Int

/-- What is assigned to take over a state. -/
def State.assignments (state : State) (names : FieldNames) : List (String × FieldValue) :=
  [(names.status, .string state.status.name), (names.reason, .string state.reason),
    (names.message, .string state.message)] ++
    state.generation.toList.map fun generation => (names.observedGeneration, .int generation)

section Assignments

variable {state : State} {names : FieldNames}

theorem State.status_mem : (names.status, .string state.status.name) ∈ state.assignments names := by
  simp [assignments]

theorem State.reason_mem : (names.reason, .string state.reason) ∈ state.assignments names := by
  simp [assignments]

theorem State.message_mem : (names.message, .string state.message) ∈ state.assignments names := by
  simp [assignments]

theorem State.generation_mem {generation : Int} (h : state.generation = some generation) :
    (names.observedGeneration, .int generation) ∈ state.assignments names := by
  simp [assignments, h]

end Assignments

theorem State.nodup_assignments {names : FieldNames} (hnames : names.Distinct) (state : State) :
    ((state.assignments names).map (·.1)).Nodup := by
  have hstate : names.state.Nodup := (List.nodup_append.1 (List.nodup_cons.1 hnames).2).1
  have hsublist : ((state.assignments names).map (·.1)).Sublist names.state := by
    rw [assignments, List.map_append]
    apply List.Sublist.append_left (l := [names.status, names.reason, names.message])
    cases state.generation with
    | none => exact List.nil_sublist _
    | some generation => exact List.Sublist.refl _
  exact hstate.sublist hsublist

theorem Accessor.isRecord_of_reason (reader : Accessor) {source : Record} {text : String}
    (hreason : reader.reason source = .ok text) : source.isRecord = true := by
  obtain ⟨_, hread, -⟩ := Except.map_eq_ok_iff.1 hreason
  obtain ⟨_, hfield, -⟩ := Record.read_eq_ok_iff.1 hread
  exact Record.isRecord_of_field? hfield

/-- The state that an accessor reads from a record. -/
structure Accessor.Offers (reader : Accessor) (source : Record) (state : State) : Prop where
  status : reader.status source = .ok state.status
  reason : reader.reason source = .ok state.reason
  message : reader.message source = .ok state.message
  generation : match state.generation with
    | some generation => (source.field? reader.names.observedGeneration).isSome ∧
        reader.observedGeneration source = .ok generation
    | none => source.field? reader.names.observedGeneration = none

/-- Taking over a state is assigning what is read of it. -/
theorem Edit.on_copying_eq_ok_iff {reader writer : Accessor} {source record after : Record} :
    (copying reader writer source).on record = (.ok (), after) ↔
      ∃ state, reader.Offers source state ∧
        (assignAll (state.assignments writer.names)).on record = (.ok (), after) := by
  simp only [copying, Attempt.on_bind_eq_ok, Attempt.on_ofExcept, Prod.mk.injEq]
  constructor
  · rintro ⟨status, _, ⟨hstatus, rfl⟩, _, first, hfirst, reason, _, ⟨hreason, rfl⟩, _, second,
      hsecond, message, _, ⟨hmessage, rfl⟩, _, third, hthird, found, _, ⟨hfound, rfl⟩, hlast⟩
    obtain ⟨-, hfield⟩ := Record.has_eq_ok_iff.1 hfound
    cases found with
    | false =>
        refine ⟨⟨status, reason, message, none⟩, ⟨hstatus, hreason, hmessage, ?_⟩, ?_⟩
        · simpa using hfield
        · simp only [State.assignments, Option.toList_none, List.map_nil, List.append_nil,
            assignAll, Attempt.on_bind_eq_ok]
          exact ⟨_, first, hfirst, _, second, hsecond, _, third, hthird, hlast⟩
    | true =>
        simp only [if_true, Attempt.on_bind_eq_ok, Attempt.on_ofExcept, Prod.mk.injEq] at hlast
        obtain ⟨generation, _, ⟨hgeneration, rfl⟩, hlast⟩ := hlast
        refine ⟨⟨status, reason, message, some generation⟩,
          ⟨hstatus, hreason, hmessage, hfield.symm, hgeneration⟩, ?_⟩
        simp only [State.assignments, Option.toList_some, List.map_cons, List.map_nil,
          List.cons_append, List.nil_append, assignAll, Attempt.on_bind_eq_ok]
        exact ⟨_, first, hfirst, _, second, hsecond, _, third, hthird, _, after, hlast, rfl⟩
  · rintro ⟨⟨status, reason, message, generation⟩, ⟨hstatus, hreason, hmessage, hgeneration⟩, hall⟩
    have hrecord := reader.isRecord_of_reason hreason
    cases generation with
    | none =>
        simp only [State.assignments, Option.toList_none, List.map_nil, List.append_nil,
          assignAll, Attempt.on_bind_eq_ok] at hall
        obtain ⟨_, first, hfirst, _, second, hsecond, _, third, hthird, hlast⟩ := hall
        have hhas : reader.hasObservedGeneration source = .ok false :=
          Record.has_eq_ok_iff.2 ⟨hrecord, by rw [hgeneration]; rfl⟩
        exact ⟨status, _, ⟨hstatus, rfl⟩, _, first, hfirst, reason, _, ⟨hreason, rfl⟩, _, second,
          hsecond, message, _, ⟨hmessage, rfl⟩, _, third, hthird, false, _, ⟨hhas, rfl⟩, hlast⟩
    | some generation =>
        simp only [State.assignments, Option.toList_some, List.map_cons, List.map_nil,
          List.cons_append, List.nil_append, assignAll, Attempt.on_bind_eq_ok] at hall
        obtain ⟨_, first, hfirst, _, second, hsecond, _, third, hthird, _, fourth, hfourth,
          hlast⟩ := hall
        cases hlast
        have hhas : reader.hasObservedGeneration source = .ok true :=
          Record.has_eq_ok_iff.2 ⟨hrecord, hgeneration.1.symm⟩
        refine ⟨status, _, ⟨hstatus, rfl⟩, _, first, hfirst, reason, _, ⟨hreason, rfl⟩, _, second,
          hsecond, message, _, ⟨hmessage, rfl⟩, _, third, hthird, true, _, ⟨hhas, rfl⟩, ?_⟩
        simp only [if_true, Attempt.on_bind_eq_ok, Attempt.on_ofExcept, Prod.mk.injEq]
        exact ⟨generation, _, ⟨hgeneration.2, rfl⟩, hfourth⟩

namespace Accessor

/-! What was assigned is read again. -/

theorem status_of_read {accessor : Accessor} {record : Record} {status : Status}
    (hread : (record.read accessor.names.status .optionalString).map FieldValue.text =
      .ok status.name) : accessor.status record = .ok status := by
  obtain ⟨taken, htaken, htext⟩ := Except.map_eq_ok_iff.1 hread
  have hname : status.name.isEmpty = false := by cases status <;> rfl
  unfold Accessor.status
  rw [htaken]
  simp only [bind, Except.bind, htext, hname, Status.ofName?_name]
  rfl

theorem observedGeneration_of_stored {accessor : Accessor} {record : Record} {generation : Int}
    {stored : FieldValue ⊕ Json} (hsized : FieldValue.isInt64 generation = true)
    (hstore : record.form.store? accessor.names.observedGeneration (.int generation) =
      some stored)
    (hstored : record.stored? accessor.names.observedGeneration = some stored) :
    accessor.observedGeneration record = .ok generation := by
  have hread : record.read accessor.names.observedGeneration .optionalInt =
      .ok (.int generation) := by
    rw [Record.read_eq_ok_iff, Record.field?_eq_reads, hstored]
    have hvalue : FieldValue.ofJson (.int generation) = .int generation := if_pos hsized
    cases hform : record.form with
    | typed type =>
        rw [hform] at hstore
        obtain ⟨taken, htaken, rfl⟩ := Option.map_eq_some_iff.1 hstore
        obtain ⟨fieldType, -, htake⟩ := Option.bind_eq_some_iff.1 htaken
        cases fieldType <;> cases htake
        exact ⟨.int generation, rfl, rfl⟩
    | map | object =>
        rw [hform] at hstore
        cases hstore
        exact ⟨.int generation, congrArg some hvalue, rfl⟩
    | bare value =>
        rw [Record.stored?_of_form_eq_bare hform] at hstored
        cases hstored
  rw [Accessor.observedGeneration, hread]
  rfl

/-- Only what is there as an integer is read as one; what is there and holds nothing is read as
zero. -/
theorem observedGeneration_cases {reader : Accessor} {source : Record} {generation : Int}
    (hread : reader.observedGeneration source = .ok generation) :
    source.field? reader.names.observedGeneration = some (.int generation) ∨
      source.field? reader.names.observedGeneration = some .null ∧ generation = 0 := by
  obtain ⟨taken, htaken, rfl⟩ := Except.map_eq_ok_iff.1 hread
  obtain ⟨value, hfield, htake⟩ := Record.read_eq_ok_iff.1 htaken
  cases value <;> cases htake
  · exact .inr ⟨hfield, rfl⟩
  · exact .inl hfield

theorem Offers.generation_eq {reader : Accessor} {source : Record} {state : State}
    (h : reader.Offers source state) :
    state.generation = (source.field? reader.names.observedGeneration).map FieldValue.number := by
  have hgeneration := h.generation
  cases hstate : state.generation with
  | none =>
      rw [hstate] at hgeneration
      rw [hgeneration]
      rfl
  | some generation =>
      rw [hstate] at hgeneration
      rcases observedGeneration_cases hgeneration.2 with hfield | ⟨hfield, rfl⟩ <;>
        rw [hfield] <;> rfl

/-- What a record needs so that it can take over the state of a source. -/
structure CanCopy (reader writer : Accessor) (source record : Record) : Prop where
  status : ∃ status, reader.status source = .ok status ∧
    record.form.Takes writer.names.status (.string status.name)
  reason : ∃ text, reader.reason source = .ok text ∧
    record.form.Takes writer.names.reason (.string text)
  message : ∃ text, reader.message source = .ok text ∧
    record.form.Takes writer.names.message (.string text)
  /-- A source without the field needs nothing here; a source with the field needs a record that
  takes a number, even if the field holds nothing. -/
  generation : source.field? reader.names.observedGeneration = none ∨
    ∃ generation, reader.observedGeneration source = .ok generation ∧
      record.form.Takes writer.names.observedGeneration (.int generation)

/-- What taking over the state of a source makes of a record. -/
structure Copies (reader writer : Accessor) (source record after : Record) : Prop where
  status : writer.status after = reader.status source
  reason : writer.reason after = reader.reason source
  message : writer.message after = reader.message source
  type : writer.type after = writer.type record
  lastTransitionTime : writer.lastTransitionTime after = writer.lastTransitionTime record
  lastUpdateTime : writer.lastUpdateTime after = writer.lastUpdateTime record
  /-- All other fields are stored as before. -/
  others : record.AgreeOff writer.names.state after
  carried : ∀ generation,
    source.field? reader.names.observedGeneration = some (.int generation) →
      writer.observedGeneration after = .ok generation
  lacking : source.field? reader.names.observedGeneration = none →
    after.stored? writer.names.observedGeneration =
      record.stored? writer.names.observedGeneration
  /-- A field that holds nothing is taken over as zero. -/
  unset : source.field? reader.names.observedGeneration = some .null →
    writer.observedGeneration after = .ok 0

variable {reader writer : Accessor} {source record after : Record}

theorem exists_copying_iff :
    (∃ after, (Edit.copying reader writer source).on record = (.ok (), after)) ↔
      reader.CanCopy writer source record := by
  constructor
  · rintro ⟨after, hcopy⟩
    obtain ⟨state, hoffers, hall⟩ := Edit.on_copying_eq_ok_iff.1 hcopy
    have htakes := Edit.exists_assignAll_iff.1 ⟨after, hall⟩
    refine
      { status := ⟨_, hoffers.status, htakes _ state.status_mem⟩
        reason := ⟨_, hoffers.reason, htakes _ state.reason_mem⟩
        message := ⟨_, hoffers.message, htakes _ state.message_mem⟩
        generation := ?_ }
    have hgeneration := hoffers.generation
    cases hstate : state.generation with
    | none =>
        rw [hstate] at hgeneration
        exact .inl hgeneration
    | some generation =>
        rw [hstate] at hgeneration
        exact .inr ⟨generation, hgeneration.2, htakes _ (State.generation_mem hstate)⟩
  · rintro ⟨⟨status, hstatus, htakesStatus⟩, ⟨reason, hreason, htakesReason⟩,
      ⟨message, hmessage, htakesMessage⟩, hgeneration⟩
    suffices ∃ state, reader.Offers source state ∧
        ∀ assignment ∈ state.assignments writer.names,
          record.form.Takes assignment.1 assignment.2 by
      obtain ⟨state, hoffers, htakes⟩ := this
      obtain ⟨after, hall⟩ := Edit.exists_assignAll_iff.2 htakes
      exact ⟨after, Edit.on_copying_eq_ok_iff.2 ⟨state, hoffers, hall⟩⟩
    have htexts := And.intro htakesStatus (And.intro htakesReason htakesMessage)
    rcases hgeneration with hlacks | ⟨generation, hread, htakes⟩
    · refine ⟨⟨status, reason, message, none⟩, ⟨hstatus, hreason, hmessage, hlacks⟩, ?_⟩
      simpa [State.assignments] using htexts
    · have hfield : (source.field? reader.names.observedGeneration).isSome := by
        rcases observedGeneration_cases hread with hfield | ⟨hfield, -⟩ <;> rw [hfield] <;> rfl
      refine ⟨⟨status, reason, message, some generation⟩,
        ⟨hstatus, hreason, hmessage, hfield, hread⟩, ?_⟩
      simpa [State.assignments, and_assoc] using And.intro htexts htakes

/-- An edit of the state alone shows in no other part. -/
theorem reads_eq_of_agreeOff (hnames : writer.names.Distinct)
    (hagree : record.AgreeOff writer.names.state after) :
    writer.type after = writer.type record ∧
      writer.lastTransitionTime after = writer.lastTransitionTime record ∧
      writer.lastUpdateTime after = writer.lastUpdateTime record := by
  have htype : writer.names.type ∉ writer.names.state :=
    fun hmem => hnames.type_not_mem (List.mem_append_left _ hmem)
  have htime : ∀ field ∈ writer.names.times,
      after.read field .optionalTime = record.read field .optionalTime :=
    fun field hfield => hagree.read_eq (hnames.not_mem_state hfield) _
  refine ⟨?_, ?_, ?_⟩
  · rw [Accessor.type, Accessor.type, hagree.read_eq htype]
  · rw [Accessor.lastTransitionTime, Accessor.lastTransitionTime,
      htime _ (by simp [FieldNames.times])]
  · rw [Accessor.lastUpdateTime, Accessor.lastUpdateTime, htime _ (by simp [FieldNames.times])]

theorem texts_of_assignAll {state : State} (hnames : writer.names.Distinct)
    (htexts : ∀ field ∈ writer.names.texts, record.form.holdsTime field = false)
    (hall : (Edit.assignAll (state.assignments writer.names)).on record = (.ok (), after)) :
    writer.status after = .ok state.status ∧ writer.reason after = .ok state.reason ∧
      writer.message after = .ok state.message := by
  have hform := (Edit.touches_assignAll.agreeOff hall).form_eq
  have htext : ∀ field ∈ writer.names.texts, ∀ text,
      (field, .string text) ∈ state.assignments writer.names →
        (after.read field .optionalString).map FieldValue.text = .ok text := by
    intro field hfield text hassigned
    obtain ⟨stored, hstore, hstored⟩ :=
      Edit.assignAll_stored (state.nodup_assignments hnames) hall _ hassigned
    rw [← hform] at hstore
    refine Record.read_of_store?_string ?_ hstore hstored
    rw [hform]
    exact htexts field hfield
  refine ⟨status_of_read ?_, ?_, ?_⟩
  · exact htext _ (by simp [FieldNames.texts]) _ State.status_mem
  · exact htext _ (by simp [FieldNames.texts]) _ State.reason_mem
  · exact htext _ (by simp [FieldNames.texts]) _ State.message_mem

theorem generation_of_assignAll {state : State} {generation : Int}
    (hnames : writer.names.Distinct) (hgeneration : state.generation = some generation)
    (hsized : FieldValue.isInt64 generation = true)
    (hall : (Edit.assignAll (state.assignments writer.names)).on record = (.ok (), after)) :
    writer.observedGeneration after = .ok generation := by
  obtain ⟨stored, hstore, hstored⟩ := Edit.assignAll_stored (state.nodup_assignments hnames) hall _
    (State.generation_mem hgeneration)
  rw [← (Edit.touches_assignAll.agreeOff hall).form_eq] at hstore
  exact observedGeneration_of_stored hsized hstore hstored

theorem stored?_of_assignAll {state : State} (hnames : writer.names.Distinct)
    (hgeneration : state.generation = none)
    (hall : (Edit.assignAll (state.assignments writer.names)).on record = (.ok (), after)) :
    after.stored? writer.names.observedGeneration =
      record.stored? writer.names.observedGeneration := by
  apply (Edit.touches_assignAll.agreeOff hall).stored_eq
  simpa [State.assignments, hgeneration, FieldNames.texts] using hnames.observedGeneration_not_mem

theorem copies_of_copying (hnames : writer.names.Distinct)
    (htexts : ∀ field ∈ writer.names.texts, record.form.holdsTime field = false)
    (hsized : ∀ condition, source = .typed condition → condition.Sized)
    (hcopy : (Edit.copying reader writer source).on record = (.ok (), after)) :
    reader.Copies writer source record after := by
  obtain ⟨state, hoffers, hall⟩ := Edit.on_copying_eq_ok_iff.1 hcopy
  have htouches : (Edit.copying reader writer source).Touches writer.names.state :=
    Edit.leads_copying (fun _ _ hwrites => Edit.touches_assign hwrites.mem_state _) reader source
  have hagree := htouches.agreeOff hcopy
  obtain ⟨hstatus, hreason, hmessage⟩ := texts_of_assignAll hnames htexts hall
  obtain ⟨htype, htransition, hupdate⟩ := reads_eq_of_agreeOff hnames hagree
  have hgeneration := hoffers.generation_eq
  refine
    { status := hstatus.trans hoffers.status.symm
      reason := hreason.trans hoffers.reason.symm
      message := hmessage.trans hoffers.message.symm
      type := htype
      lastTransitionTime := htransition
      lastUpdateTime := hupdate
      others := hagree
      carried := fun generation hfield => ?_
      lacking := fun hlacks => ?_
      unset := fun hnull => ?_ }
  · rw [hfield] at hgeneration
    exact generation_of_assignAll hnames hgeneration (Record.isInt64_of_field? hsized hfield) hall
  · rw [hlacks] at hgeneration
    exact stored?_of_assignAll hnames hgeneration hall
  · rw [hnull] at hgeneration
    exact generation_of_assignAll hnames hgeneration (by decide) hall

/-- A record takes over the state of a source if the source can be read and the record takes what
is read; then its status, its reason and its message read as those of the source, and nothing but
the state has changed.  An observed generation arrives as it is; where the source has no such field
the record keeps its own, and where the field holds nothing the record gets zero. -/
theorem copy_copies {reader? : Option Accessor} (hnames : writer.names.Distinct)
    (htexts : ∀ field ∈ writer.names.texts, record.form.holdsTime field = false)
    (hsized : ∀ condition, source = .typed condition → condition.Sized) :
    ((∃ after, ((Update.copy reader? source).apply writer).on record = (.ok (), after)) ↔
      (reader?.getD writer).CanCopy writer source record) ∧
    ∀ after, ((Update.copy reader? source).apply writer).on record = (.ok (), after) →
      (reader?.getD writer).Copies writer source record after :=
  ⟨exists_copying_iff, fun _ hcopy => copies_of_copying hnames htexts hsized hcopy⟩

/-- A condition that was computed from the fifth generation. -/
def readyAtFive : Record :=
  .json (.obj [("observedGeneration", .int 5), ("type", .str "Ready")])

theorem copy_copies_readyAtFive :
    let source : Record := .map [("observedGeneration", .int 7), ("status", .str "True")]
    ∃ after, ((Update.copy none source).apply {}).on readyAtFive = (.ok (), after) ∧
      Copies {} {} source readyAtFive after := by
  intro source
  have hform : readyAtFive.form.holdsTime = fun _ => false := rfl
  have hcopies := @copy_copies {} source readyAtFive none (by decide)
    (fun field _ => congrFun hform field) (by simp [source])
  exact ⟨_, Prod.ext (by rfl) (by rfl), hcopies.2 _ (Prod.ext (by rfl) (by rfl))⟩

/-- An object without an observed generation hands over zero: a condition that has one loses it, and
a condition of a pod, which has no such field, takes over the texts and then fails. -/
theorem copy_hands_over_zero :
    let source : Record := .map [("status", .str "True")]
    source.stored? "observedGeneration" = none ∧
      observedGeneration {} readyAtFive = .ok 5 ∧
      (∃ after, ((Update.copy none source).apply {}).on readyAtFive = (.ok (), after) ∧
        observedGeneration {} after = .ok 0) ∧
      ∃ after, ((Update.copy none source).apply {}).on (podReady .true (.ofSeconds 0)) =
        (.error (.missingField "observedGeneration" "PodCondition"), after) := by
  refine ⟨rfl, rfl, ⟨_, Prod.ext (by rfl) (by rfl), by rfl⟩, _, Prod.ext ?_ (by rfl)⟩
  decide +kernel

end Accessor

end Reconciler.Condition
