import Reconciler.Proofs.Condition.Frame
import Reconciler.Proofs.Time.Rfc3339
/-!
The timestamps that an update keeps.  What counts is the state before the first update and after
the last one, and not what the updates in between made of it.
-/
namespace Reconciler.Condition

namespace Record

/-- The text of a field; a field that holds nothing, or is not there, has the empty text. -/
def text (record : Record) (field : String) : String :=
  ((record.field? field).map FieldValue.text).getD ""

theorem read_map_text {record : Record} {field : String} {text : String}
    (htext : (record.read field .optionalString).map FieldValue.text = .ok text) :
    text = record.text field := by
  obtain ⟨taken, hread, rfl⟩ := Except.map_eq_ok_iff.1 htext
  obtain ⟨value, hfield, htake⟩ := Record.read_eq_ok_iff.1 hread
  unfold Record.text
  rw [hfield]
  cases value with
  | null | string text =>
      cases htake
      rfl
  | _ => cases htake

/-- What a record of a form stores when it is stamped with a time. -/
def Form.stamp (now : Instant) : Form → FieldValue ⊕ Json
  | .typed _ => .inl (.time now)
  | _ => .inr (.str (Rfc3339.write 0 now))

/-- The time that is read from such a stamp. -/
def Form.shown (now : Instant) : Form → Instant
  | .typed _ => now
  | _ => now.truncate

/-- A time that a record of a form can be stamped with so that it can be read. -/
def Form.CanShow (now : Instant) : Form → Prop
  | .typed _ => True
  | _ => now.Civil

theorem Form.store?_time {form : Form} {field : String} {now : Instant} {stored : FieldValue ⊕ Json}
    (h : form.store? field (.time now) = some stored) : stored = form.stamp now := by
  cases form with
  | typed type =>
      obtain ⟨taken, htaken, rfl⟩ := Option.map_eq_some_iff.1 h
      obtain ⟨fieldType, -, htake⟩ := Option.bind_eq_some_iff.1 htaken
      cases fieldType <;> simp_all [FieldType.take?, Form.stamp]
  | map => exact (Option.some.inj h).symm
  | object => exact (Option.some.inj h).symm
  | bare value => cases h

/-- A stamp is read as the time that it shows. -/
theorem read_stamp {record : Record} {field : String} {now : Instant}
    (hshow : record.form.CanShow now)
    (hstored : record.stored? field = some (record.form.stamp now)) :
    (record.read field .optionalTime).map FieldValue.instant? =
      .ok (some (record.form.shown now)) := by
  have hread : record.read field .optionalTime = .ok (.time (record.form.shown now)) := by
    rw [read_eq_ok_iff, field?_eq_reads, hstored]
    cases hform : record.form with
    | typed type => exact ⟨.time now, rfl, rfl⟩
    | map =>
        rw [hform] at hshow
        refine ⟨.string (Rfc3339.write 0 now), rfl, ?_⟩
        simp [FieldType.take?, Rfc3339.parse?_write_zero hshow, Form.shown]
    | object =>
        rw [hform] at hshow
        refine ⟨.string (Rfc3339.write 0 now), rfl, ?_⟩
        simp [FieldType.take?, Rfc3339.parse?_write_zero hshow, Form.shown]
    | bare value =>
        rw [stored?_of_form_eq_bare hform] at hstored
        cases hstored
  rw [hread]
  rfl

end Record

namespace Transition

/-- One of the parts that count has another text. -/
def Changed (transition : Transition) (names : FieldNames) (before after : Record) : Prop :=
  ∃ field ∈ transition.fields names, after.text field ≠ before.text field

instance (transition : Transition) (names : FieldNames) (before after : Record) :
    Decidable (transition.Changed names before after) :=
  inferInstanceAs (Decidable (∃ field ∈ transition.fields names, _))

theorem values_eq_ok {transition : Transition} {names : FieldNames} {record : Record}
    {texts : List String} (h : transition.values names record = .ok texts) :
    texts = (transition.fields names).map record.text := by
  unfold values at h
  generalize transition.fields names = fields at h ⊢
  induction fields generalizing texts with
  | nil =>
      cases h
      rfl
  | cons field rest ih =>
      obtain ⟨text, others, htext, hothers, rfl⟩ := Except.mapM_cons_eq_ok_iff.1 h
      rw [List.map_cons, Record.read_map_text htext, ih hothers]

/-- The values before and after differ if a part that counts has changed. -/
theorem values_ne_iff {transition : Transition} {names : FieldNames} {before after : Record}
    {old new : List String} (hold : transition.values names before = .ok old)
    (hnew : transition.values names after = .ok new) :
    new ≠ old ↔ transition.Changed names before after := by
  rw [values_eq_ok hold, values_eq_ok hnew, Ne, List.map_inj_left]
  simp [Changed]

end Transition

namespace Edit

theorem assignIfExists_time {field : String} {now : Instant} {record after : Record}
    (h : (assignIfExists field (.time now)).on record = (.ok (), after)) :
    record.AgreeOff [field] after ∧
      after.stored? field =
        if record.form.hasField field then some (record.form.stamp now)
        else record.stored? field := by
  rw [on_assignIfExists] at h
  cases hhas : record.has field with
  | error error => simp [hhas] at h
  | ok found =>
      obtain ⟨-, hfound⟩ := Record.has_eq_ok_iff.1 hhas
      rw [Record.isSome_field?] at hfound
      cases found with
      | false =>
          simp only [hhas, Prod.mk.injEq, true_and] at h
          subst h
          exact ⟨.refl _ _, by rw [← hfound]; rfl⟩
      | true =>
          simp only [hhas] at h
          have hset := setField_of_assign h
          obtain ⟨stored, hstore, hstored⟩ := Record.setField_stored hset
          refine ⟨Record.setField_agreeOff hset, ?_⟩
          rw [← hfound, if_pos rfl, hstored, Record.Form.store?_time hstore]

/-- After the edit proper, the time of the last transition is stamped if the state has changed, and
then the time of the last update. -/
theorem stamped_ok {names : FieldNames} {transition : Transition} {now : Instant}
    {edit : Edit Unit} {record after : Record}
    (h : (stamped names transition now edit).on record = (.ok (), after)) :
    ∃ applied between, edit.on record = (.ok (), applied) ∧
      (if transition.Changed names record applied then
        (assignIfExists names.lastTransitionTime (.time now)).on applied = (.ok (), between)
      else between = applied) ∧
      (assignIfExists names.lastUpdateTime (.time now)).on between = (.ok (), after) := by
  obtain ⟨old, first, hold, h⟩ := Attempt.on_bind_eq_ok.1 h
  obtain ⟨_, applied, hedit, h⟩ := Attempt.on_bind_eq_ok.1 h
  obtain ⟨new, last, hnew, h⟩ := Attempt.on_bind_eq_ok.1 h
  simp only [on_reading, Prod.mk.injEq] at hold hnew
  obtain ⟨hold, rfl⟩ := hold
  obtain ⟨hnew, rfl⟩ := hnew
  have hchanged := Transition.values_ne_iff hold hnew
  by_cases hne : new ≠ old
  · rw [if_pos hne] at h
    obtain ⟨_, between, htransition, hupdate⟩ := Attempt.on_bind_eq_ok.1 h
    exact ⟨applied, between, hedit, by rwa [if_pos (hchanged.1 hne)], hupdate⟩
  · rw [if_neg hne] at h
    exact ⟨applied, applied, hedit, by rw [if_neg (mt hchanged.2 hne)], h⟩

end Edit

namespace Accessor

/-- What an update that succeeds leaves of a record, where `applied` is what the updates by
themselves make of it. -/
structure Stamps (accessor : Accessor) (now : Instant) (record applied after : Record) : Prop where
  /-- All other fields are those of the updates. -/
  others : applied.AgreeOff accessor.names.times after
  lastTransitionTime : after.stored? accessor.names.lastTransitionTime =
    if accessor.disableTimestampUpdates = false ∧
        (record.field? accessor.names.lastTransitionTime).isSome ∧
        accessor.transition.Changed accessor.names record applied then
      some (record.form.stamp now)
    else record.stored? accessor.names.lastTransitionTime
  lastUpdateTime : after.stored? accessor.names.lastUpdateTime =
    if accessor.disableTimestampUpdates = false ∧
        (record.field? accessor.names.lastUpdateTime).isSome then
      some (record.form.stamp now)
    else record.stored? accessor.names.lastUpdateTime
  /-- No record becomes one of another form. -/
  form : after.form = record.form

theorem stamps_update {accessor : Accessor} {now : Instant} {updates : List Update}
    {record after : Record} (hnames : accessor.names.Distinct)
    (hplain : ∀ update ∈ updates, update.IsPlain)
    (hupdate : (accessor.update now updates).on record = (.ok (), after)) :
    ∃ applied, (Update.applyAll accessor updates).on record = (.ok (), applied) ∧
      accessor.Stamps now record applied after := by
  have htouches := Update.touches_applyAll_of_isPlain hplain accessor
  have htransition := hnames.not_mem_state
    (show accessor.names.lastTransitionTime ∈ accessor.names.times by simp [FieldNames.times])
  have hlast := hnames.not_mem_state
    (show accessor.names.lastUpdateTime ∈ accessor.names.times by simp [FieldNames.times])
  unfold update at hupdate
  cases hdisable : accessor.disableTimestampUpdates with
  | true =>
      rw [hdisable, if_pos rfl] at hupdate
      have hagree := htouches.agreeOff hupdate
      exact ⟨after, hupdate, .refl _ _, by simp [hdisable, hagree.stored_eq _ htransition],
        by simp [hdisable, hagree.stored_eq _ hlast], hagree.form_eq⟩
  | false =>
      rw [hdisable, if_neg (by decide)] at hupdate
      obtain ⟨applied, between, hedit, hbetween, hafter⟩ := Edit.stamped_ok hupdate
      have hagree := htouches.agreeOff hedit
      obtain ⟨hsecond, hstamp⟩ := Edit.assignIfExists_time hafter
      have hne := hnames.times_ne
      refine ⟨applied, hedit, ?_⟩
      by_cases hchanged : accessor.transition.Changed accessor.names record applied
      · rw [if_pos hchanged] at hbetween
        obtain ⟨hfirst, htime⟩ := Edit.assignIfExists_time hbetween
        refine ⟨?_, ?_, ?_, hsecond.form_eq.trans (hfirst.form_eq.trans hagree.form_eq)⟩
        · exact (hfirst.mono (by simp [FieldNames.times])).trans
            (hsecond.mono (by simp [FieldNames.times]))
        · rw [hsecond.stored_eq _ (by simpa using hne), htime, hagree.form_eq,
            hagree.stored_eq _ htransition]
          simp [hdisable, hchanged, Record.isSome_field?]
        · rw [hstamp, hfirst.form_eq, hagree.form_eq, hfirst.stored_eq _ (by simpa using hne.symm),
            hagree.stored_eq _ hlast]
          simp [hdisable, Record.isSome_field?]
      · rw [if_neg hchanged] at hbetween
        subst hbetween
        refine ⟨hsecond.mono (by simp [FieldNames.times]), ?_, ?_,
          hsecond.form_eq.trans hagree.form_eq⟩
        · rw [hsecond.stored_eq _ (by simpa using hne), hagree.stored_eq _ htransition]
          simp [hchanged]
        · rw [hstamp, hagree.form_eq, hagree.stored_eq _ hlast]
          simp [hdisable, Record.isSome_field?]

namespace Stamps

variable {accessor : Accessor} {now : Instant} {record applied after : Record}

end Stamps

end Accessor

end Reconciler.Condition
