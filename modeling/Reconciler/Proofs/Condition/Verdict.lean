import Reconciler.Proofs.Condition.Copy
import Reconciler.Proofs.Condition.Mirror
import Reconciler.Proofs.Condition.Reread
import Reconciler.Proofs.Condition.Timeline
/-!
Conditions of deployments that are made to say something: a status, a reason and a message.  This
never fails, a list says it in its first condition of the type, and saying the same again only moves
the time of the last update.
-/
namespace Reconciler

/-- An object with another value of a field, and as before otherwise. -/
structure Json.Writes (name : String) (value before after : Json) : Prop where
  isObject : before.isObject = true ∧ after.isObject = true
  written : after.field? name = some value
  others : ∀ other, other ≠ name → after.field? other = before.field? other

namespace Condition

/-- What a condition is made to say. -/
structure Verdict where
  status : Status
  reason : String
  message : String

namespace Verdict

/-- The updates that make a condition say it. -/
def updates (verdict : Verdict) : List Update :=
  [.status verdict.status, .reason verdict.reason, .message verdict.message]

/-- What is assigned to the fields. -/
def assignments (verdict : Verdict) : List (String × FieldValue) :=
  [("status", .string verdict.status.name), ("reason", .string verdict.reason),
    ("message", .string verdict.message)]

/-- A condition that says it in its fields. -/
def Told (verdict : Verdict) (record : Record) : Prop :=
  ∀ assignment ∈ verdict.assignments, record.field? assignment.1 = some assignment.2

theorem applyAll_updates (verdict : Verdict) :
    Update.applyAll {} verdict.updates = Edit.assignAll verdict.assignments := rfl

theorem isPlain_updates (verdict : Verdict) : ∀ update ∈ verdict.updates, update.IsPlain := by
  simp [updates, Update.IsPlain]

end Verdict

/-- The fields of a condition that an update can write to. -/
def written : List String :=
  FieldNames.state {} ++ FieldNames.times {}

/-- A condition of a deployment after an update at a time that made it say something. -/
structure Marked (now : Instant) (verdict : Verdict) (before after : Record) : Prop where
  others : before.AgreeOff written after
  told : verdict.Told after
  lastUpdateTime : after.field? "lastUpdateTime" = some (.time now)
  lastTransitionTime : after.field? "lastTransitionTime" =
    if before.text "status" = verdict.status.name then before.field? "lastTransitionTime"
    else some (.time now)

namespace Record

variable {record before after : Record} {off : List String} {name : String}

theorem stored?_eq_map (hform : record.form = .typed .deployment) (name : String) :
    record.stored? name = (record.field? name).map .inl := by
  cases record with
  | typed condition => rfl
  | map fields => cases hform
  | json value => cases value <;> cases hform

theorem field?_eq_of_stored? {value : FieldValue} (hform : record.form = .typed .deployment)
    (hstored : record.stored? name = some (.inl value)) : record.field? name = some value := by
  rw [stored?_eq_map hform] at hstored
  obtain ⟨found, hfound, hsame⟩ := Option.map_eq_some_iff.1 hstored
  rw [hfound, Sum.inl.inj hsame]

/-- A field of texts holds a text or nothing. -/
theorem text_of_holds (hform : record.form = .typed .deployment)
    (hname : name ∈ ["type", "status", "reason", "message"]) :
    record.field? name = some .null ∨ ∃ text, record.field? name = some (.string text) := by
  have hhas : (record.field? name).isSome = true := by
    rw [isSome_field?, hform]
    simp only [List.mem_cons, List.not_mem_nil, or_false] at hname
    rcases hname with rfl | rfl | rfl | rfl <;> rfl
  obtain ⟨value, hvalue⟩ := Option.isSome_iff_exists.1 hhas
  obtain ⟨type, hlookup, hholds⟩ := holds_field? hform hvalue
  have htype : type = .string ∨ type = .optionalString := by
    simp only [List.mem_cons, List.not_mem_nil, or_false] at hname
    rcases hname with rfl | rfl | rfl | rfl <;> cases hlookup <;> simp
  rcases hholds.text htype with rfl | ⟨text, rfl⟩
  · exact .inl hvalue
  · exact .inr ⟨text, hvalue⟩

theorem legible_of_deployment (hform : record.form = .typed .deployment)
    (hname : name ∈ FieldNames.texts {}) : record.Legible name := by
  rcases text_of_holds hform (List.mem_cons_of_mem "type" hname) with hnull | ⟨text, htext⟩
  · exact ⟨.null, read_eq_ok_iff.2 ⟨.null, hnull, rfl⟩⟩
  · exact ⟨.string text, read_eq_ok_iff.2 ⟨.string text, htext, rfl⟩⟩

/-- A deployment's condition that agrees with one whose times can be read, but for fields that hold
no other times. -/
theorem Rereadable.of_agreeOff (h : before.Rereadable) (hagree : before.AgreeOff off after)
    (hoff : ∀ name ∈ off, ∀ t, after.field? name = some (.time t) → t.Readable) :
    after.Rereadable where
  form := hagree.form_eq.trans h.form
  times name t htime := by
    by_cases hname : name ∈ off
    · exact hoff name hname t htime
    · rw [hagree.field?_eq hname] at htime
      exact h.times name t htime

/-- The type of a deployment's condition can be read. -/
theorem exists_type (hform : record.form = .typed .deployment) :
    ∃ type, record.field? "type" = some (.string type) ∧
      ({} : Accessor).type record = .ok type := by
  rcases @text_of_holds record "type" hform (by simp) with hnull | ⟨text, htext⟩
  · obtain ⟨type, hlookup, hholds⟩ := holds_field? hform hnull
    cases hlookup
    cases hholds
  · refine ⟨text, htext, ?_⟩
    have hread : record.read "type" .optionalString = .ok (.string text) :=
      read_eq_ok_iff.2 ⟨.string text, htext, rfl⟩
    rw [Accessor.type, hread]
    rfl

end Record

namespace Verdict

variable {verdict : Verdict} {now : Instant} {record before after : Record}

/-- A condition of a deployment stores each of the texts as it is. -/
theorem store?_assignments : ∀ assignment ∈ verdict.assignments,
    (Record.Form.typed .deployment).store? assignment.1 assignment.2 =
      some (.inl assignment.2) := by
  intro assignment hassignment
  simp only [assignments, List.mem_cons, List.not_mem_nil, or_false] at hassignment
  rcases hassignment with rfl | rfl | rfl <;> rfl

theorem nodup_assignments : (verdict.assignments.map (·.1)).Nodup := by
  simp [assignments]

theorem mem_state_of_mem {assignment : String × FieldValue}
    (h : assignment ∈ verdict.assignments) : assignment.1 ∈ FieldNames.state {} := by
  simp only [assignments, List.mem_cons, List.not_mem_nil, or_false] at h
  rcases h with rfl | rfl | rfl <;> simp [FieldNames.state]

/-- An update of a deployment's condition does not fail. -/
theorem exists_update (verdict : Verdict) (now : Instant)
    (hform : record.form = .typed .deployment) :
    ∃ after, (({} : Accessor).update now verdict.updates).on record = (.ok (), after) := by
  have hvalues : ∀ {record : Record}, record.form = .typed .deployment →
      ∃ texts, ({} : Transition).values {} record = .ok texts := by
    intro record hform
    refine Transition.exists_values_iff.2 fun field hfield => ?_
    exact Record.legible_of_deployment hform (Transition.fields_subset_texts hfield)
  have htakes : ∀ assignment ∈ verdict.assignments,
      record.form.Takes assignment.1 assignment.2 := by
    intro assignment hassignment
    rw [Record.Form.Takes, hform, store?_assignments assignment hassignment]
    rfl
  obtain ⟨old, hold⟩ := hvalues hform
  obtain ⟨applied, happlied⟩ := Edit.exists_assignAll_iff.2 htakes
  have happliedForm := (Edit.touches_assignAll.agreeOff happlied).form_eq.trans hform
  obtain ⟨new, hnew⟩ := hvalues happliedForm
  have htimes : applied.form.KeepsTimes {} :=
    happliedForm ▸ RecordKind.keepsTimes_default (.inl rfl)
  obtain ⟨after, hafter⟩ := Edit.exists_stamped htimes now (new ≠ old)
  refine ⟨after, ?_⟩
  rw [Accessor.update, if_neg (by decide), Edit.on_stamped, applyAll_updates]
  simp only [hold, happlied, hnew]
  exact hafter

/-- What was assigned is said. -/
theorem told_of_assignAll (hform : before.form = .typed .deployment)
    (hall : (Edit.assignAll verdict.assignments).on before = (.ok (), after)) :
    verdict.Told after := by
  have hafter := (Edit.touches_assignAll.agreeOff hall).form_eq.trans hform
  intro assignment hassignment
  obtain ⟨stored, hstore, hstored⟩ :=
    Edit.assignAll_stored nodup_assignments hall assignment hassignment
  rw [hform, store?_assignments assignment hassignment] at hstore
  cases hstore
  exact Record.field?_eq_of_stored? hafter hstored

/-- The timestamps are not among what is said. -/
theorem Told.of_agreeOff_times (h : verdict.Told before)
    (hagree : before.AgreeOff (FieldNames.times {}) after) : verdict.Told after := by
  intro assignment hassignment
  have hnot : assignment.1 ∉ FieldNames.times {} := fun htimes =>
    FieldNames.Distinct.not_mem_state (by decide) htimes (mem_state_of_mem hassignment)
  rw [hagree.field?_eq hnot]
  exact h assignment hassignment

/-- A condition that says it has another state than before if it had another status. -/
theorem Told.changed_iff (h : verdict.Told after) :
    ({} : Transition).Changed {} before after ↔ before.text "status" ≠ verdict.status.name := by
  have hfields : ({} : Transition).fields {} = ["status"] := rfl
  have hstatus : after.text "status" = verdict.status.name := by
    rw [Record.text, h ("status", .string verdict.status.name) List.mem_cons_self]
    rfl
  simp only [Transition.Changed, hfields, List.mem_singleton, exists_eq_left, hstatus]
  exact ne_comm

/-- An update that succeeds makes the condition say it, and moves the time of the last transition if
it had another status. -/
theorem marked_of_update (hform : before.form = .typed .deployment)
    (hupdate : (({} : Accessor).update now verdict.updates).on before = (.ok (), after)) :
    Marked now verdict before after := by
  obtain ⟨applied, happlied, hstamps⟩ :=
    Accessor.stamps_update (by decide) verdict.isPlain_updates hupdate
  have hothers := ({} : Accessor).touches_update now verdict.updates before
  rw [hupdate] at hothers
  have htold := told_of_assignAll hform happlied
  have hafter := hstamps.form.trans hform
  have hkeeps : before.form.KeepsTimes {} := hform ▸ RecordKind.keepsTimes_default (.inl rfl)
  have hstamp : before.form.stamp now = .inl (.time now) := by rw [hform]; rfl
  refine ⟨hothers, htold.of_agreeOff_times hstamps.others, ?_, ?_⟩
  · have hlast : (before.field? "lastUpdateTime").isSome := by
      rw [Record.isSome_field?, hkeeps.hasField _ (by decide)]
    refine Record.field?_eq_of_stored? hafter ?_
    rw [← hstamp]
    exact hstamps.lastUpdateTime.trans (if_pos ⟨rfl, hlast⟩)
  · by_cases hsame : before.text "status" = verdict.status.name
    · rw [if_pos hsame, Record.field?_eq_reads, Record.field?_eq_reads before, hstamps.form]
      refine congrArg (before.form.reads ·) (hstamps.lastTransitionTime.trans (if_neg ?_))
      rintro ⟨-, -, hmoved⟩
      exact htold.changed_iff.1 hmoved hsame
    · have hfirst : (before.field? "lastTransitionTime").isSome := by
        rw [Record.isSome_field?, hkeeps.hasField _ (by decide)]
      rw [if_neg hsame]
      refine Record.field?_eq_of_stored? hafter ?_
      rw [← hstamp]
      exact hstamps.lastTransitionTime.trans (if_pos ⟨rfl, hfirst, htold.changed_iff.2 hsame⟩)

end Verdict

namespace Record

variable {record other : Record} {name : String}

/-- What is written of a deployment's condition is written field by field. -/
theorem field?_toJson (hform : record.form = .typed .deployment) (name : String) :
    record.toJson.field? name = (record.field? name).bind FieldValue.written? := by
  cases record with
  | typed condition =>
      rw [toJson, TypedCondition.field?_toJson, field?]
      cases condition.slots.get? name <;> rfl
  | map fields => cases hform
  | json value => cases value <;> cases hform

theorem isObject_toJson (hform : record.form = .typed .deployment) :
    record.toJson.isObject = true := by
  cases record with
  | typed condition => rfl
  | map fields => cases hform
  | json value => cases value <;> cases hform

/-- Conditions that are written the same hold the same texts. -/
theorem field?_eq_of_toJson_eq (hrecord : record.form = .typed .deployment)
    (hother : other.form = .typed .deployment) (hsame : other.toJson = record.toJson)
    (hname : name ∈ ["type", "status", "reason", "message"]) :
    other.field? name = record.field? name := by
  have hwritten := congrArg (Json.field? name) hsame
  simp only [field?_toJson hrecord, field?_toJson hother] at hwritten
  rcases text_of_holds hrecord hname with hnull | ⟨text, htext⟩
  · rcases text_of_holds hother hname with hnull' | ⟨text', htext'⟩
    · rw [hnull, hnull']
    · rw [hnull, htext'] at hwritten
      cases hwritten
  · rcases text_of_holds hother hname with hnull' | ⟨text', htext'⟩
    · rw [hnull', htext] at hwritten
      cases hwritten
    · rw [htext, htext'] at hwritten ⊢
      obtain rfl : text' = text := Json.str.inj (Option.some.inj hwritten)
      rfl

theorem type_eq_of_toJson_eq (hrecord : record.form = .typed .deployment)
    (hother : other.form = .typed .deployment) (hsame : other.toJson = record.toJson) :
    ({} : Accessor).type other = ({} : Accessor).type record := by
  obtain ⟨type, hfield, htype⟩ := exists_type hrecord
  obtain ⟨type', hfield', htype'⟩ := exists_type hother
  have hfields : other.field? "type" = record.field? "type" :=
    field?_eq_of_toJson_eq hrecord hother hsame (by simp)
  rw [hfield, hfield'] at hfields
  cases hfields
  rw [htype, htype']

theorem rereadable_blank (now : Instant) : (blank (.typed .deployment) now).Rereadable where
  form := rfl
  times name t hname := by
    have hblank : ∀ field ∈ ConditionType.deployment.fields, field.2.blank now ≠ .time t := by
      simp [ConditionType.fields, ConditionType.commonFields, FieldType.blank]
    obtain ⟨slot, hslot, hvalue⟩ := Slots.exists_mem_of_get? hname
    obtain ⟨field, hfield, rfl⟩ := List.mem_map.1 hslot
    exact absurd hvalue (hblank field hfield)

end Record

namespace Verdict

variable {verdict : Verdict} {now : Instant} {record before after : Record}

/-- Conditions that are written the same say the same. -/
theorem Told.of_toJson_eq (h : verdict.Told before) (hbefore : before.form = .typed .deployment)
    (hafter : after.form = .typed .deployment) (hsame : after.toJson = before.toJson) :
    verdict.Told after := by
  intro assignment hassignment
  have hname : assignment.1 ∈ ["type", "status", "reason", "message"] := by
    simp only [assignments, List.mem_cons, List.not_mem_nil, or_false] at hassignment
    rcases hassignment with rfl | rfl | rfl <;> simp
  rw [Record.field?_eq_of_toJson_eq hbefore hafter hsame hname]
  exact h assignment hassignment

end Verdict

namespace Marked

variable {verdict : Verdict} {now : Instant} {before after : Record} {name : String}

/-- The fields that an update can write to are the texts, the timestamps, and one that the condition
of a deployment does not have. -/
theorem cases_written (h : Marked now verdict before after)
    (hform : before.form = .typed .deployment) (hname : name ∈ written) :
    (∃ text, (name, .string text) ∈ verdict.assignments) ∨ name ∈ FieldNames.times {} ∨
      after.field? name = none ∧ before.field? name = none := by
  have hlacks : ∀ {record : Record}, record.form = .typed .deployment →
      record.field? "observedGeneration" = none := by
    intro record hform
    rw [← Option.not_isSome_iff_eq_none, Record.isSome_field?, hform]
    decide
  have hafter := h.others.form_eq.trans hform
  simp only [written, FieldNames.state, FieldNames.times, List.cons_append, List.nil_append,
    List.mem_cons, List.not_mem_nil, or_false] at hname
  rcases hname with rfl | rfl | rfl | rfl | rfl | rfl
  · exact .inl ⟨verdict.status.name, by simp [Verdict.assignments]⟩
  · exact .inl ⟨verdict.reason, by simp [Verdict.assignments]⟩
  · exact .inl ⟨verdict.message, by simp [Verdict.assignments]⟩
  · exact .inr (.inr ⟨hlacks hafter, hlacks hform⟩)
  · exact .inr (.inl (by simp [FieldNames.times]))
  · exact .inr (.inl (by simp [FieldNames.times]))

/-- The only new time is the present. -/
theorem rereadable (h : Marked now verdict before after) (hbefore : before.Rereadable)
    (hnow : now.Readable) : after.Rereadable := by
  refine hbefore.of_agreeOff h.others fun name hname t htime => ?_
  rcases h.cases_written hbefore.form hname with ⟨text, htext⟩ | htimes | ⟨hnone, -⟩
  · rw [h.told _ htext] at htime
    cases htime
  · simp only [FieldNames.times, List.mem_cons, List.not_mem_nil, or_false] at htimes
    rcases htimes with rfl | rfl
    · rw [h.lastTransitionTime] at htime
      split at htime
      · exact hbefore.times _ t htime
      · cases htime
        exact hnow
    · rw [h.lastUpdateTime] at htime
      cases htime
      exact hnow
  · rw [hnone] at htime
    cases htime

/-- A condition that said the same before has no new state, so that only one field moves. -/
theorem field?_eq (h : Marked now verdict before after) (hform : before.form = .typed .deployment)
    (htold : verdict.Told before) (hname : name ≠ "lastUpdateTime") :
    after.field? name = before.field? name := by
  by_cases hmem : name ∈ written
  · rcases h.cases_written hform hmem with ⟨text, htext⟩ | htimes | ⟨hafter, hbefore⟩
    · rw [h.told _ htext, htold _ htext]
    · simp only [FieldNames.times, List.mem_cons, List.not_mem_nil, or_false] at htimes
      obtain rfl : name = "lastTransitionTime" := htimes.resolve_right hname
      have hstatus : before.text "status" = verdict.status.name := by
        rw [Record.text, htold ("status", .string verdict.status.name) List.mem_cons_self]
        rfl
      rw [h.lastTransitionTime, if_pos hstatus]
    · rw [hafter, hbefore]
  · exact h.others.field?_eq hmem

theorem writes_toJson (h : Marked now verdict before after)
    (hform : before.form = .typed .deployment) (htold : verdict.Told before) :
    Json.Writes "lastUpdateTime" (.str (Rfc3339.write 0 now)) before.toJson after.toJson where
  isObject := ⟨Record.isObject_toJson hform,
    Record.isObject_toJson (h.others.form_eq.trans hform)⟩
  written := by
    rw [Record.field?_toJson (h.others.form_eq.trans hform), h.lastUpdateTime]
    rfl
  others name hname := by
    rw [Record.field?_toJson (h.others.form_eq.trans hform), Record.field?_toJson hform,
      h.field?_eq hform htold hname]

end Marked

end Condition

end Reconciler
