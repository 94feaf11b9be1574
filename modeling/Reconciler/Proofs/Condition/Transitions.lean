import Reconciler.Proofs.Condition.Keyed
import Reconciler.Proofs.Condition.Timestamps
/-!
When the time of the last transition follows a transition.  It does so if all updates of a call went
through, even if the call fails after that.  An update that fails on the way ends the call before
the timestamps are looked at, so that the state which the updates before it have written stands
beside the old time.
-/
namespace Reconciler.Condition

namespace Record

/-- A field that can be read as a text, set or unset. -/
def Legible (record : Record) (field : String) : Prop :=
  ∃ taken, record.read field .optionalString = .ok taken

/-- What a form can store can be assigned. -/
theorem exists_setField {record : Record} {field : String} {value : FieldValue}
    {stored : FieldValue ⊕ Json} (hstore : record.form.store? field value = some stored) :
    ∃ after, record.setField field value = .ok after := by
  cases record with
  | typed condition =>
      obtain ⟨taken, htaken, -⟩ := Option.map_eq_some_iff.1 hstore
      obtain ⟨type, hlookup, htake⟩ := Option.bind_eq_some_iff.1 htaken
      obtain ⟨result, hresult⟩ := TypedCondition.exists_set hlookup htake
      exact ⟨.typed result, by rw [setField, hresult]; rfl⟩
  | map fields => exact ⟨_, rfl⟩
  | json value =>
      cases value with
      | obj fields => exact ⟨_, rfl⟩
      | _ => cases hstore

end Record

namespace FieldNames

/-- The fields whose texts can count as the state. -/
def texts (names : FieldNames) : List String :=
  [names.status, names.reason, names.message]

/-- Names that suit the records of a form: no text of the state is kept as a time, and the time of
the last transition is kept as one. -/
structure Suits (names : FieldNames) (form : Record.Form) : Prop where
  texts : ∀ field ∈ names.texts, form.holdsTime field = false
  time : form.hasField names.lastTransitionTime = true →
    ∀ now, (form.store? names.lastTransitionTime (.time now)).isSome

/-- The default names suit all records. -/
theorem suits_default (form : Record.Form) : ({} : FieldNames).Suits form := by
  cases form with
  | typed type =>
      refine ⟨?_, fun _ now => ?_⟩
      · cases type <;> decide
      · cases type <;> rfl
  | map => exact ⟨fun _ _ => rfl, fun _ _ => rfl⟩
  | object => exact ⟨fun _ _ => rfl, fun _ _ => rfl⟩
  | bare value => exact ⟨fun _ _ => rfl, fun hfield => by cases hfield⟩

variable {names : FieldNames}

theorem Distinct.observedGeneration_not_mem (h : names.Distinct) :
    names.observedGeneration ∉ names.texts := by
  have hstate : (names.texts ++ [names.observedGeneration]).Nodup :=
    (List.nodup_append.1 (List.nodup_cons.1 h).2).1
  intro hmem
  exact (List.nodup_append.1 hstate).2.2 _ hmem _ List.mem_cons_self rfl

theorem Distinct.not_mem_times (h : names.Distinct) {field : String}
    (hfield : field ∈ names.texts) : field ∉ names.times :=
  fun htimes => h.not_mem_state htimes (List.mem_append_left [names.observedGeneration] hfield)

/-- Nothing of the state that could be read before an edit is out of reach after it. -/
structure StaysLegible (names : FieldNames) (before after : Record) : Prop where
  form_eq : after.form = before.form
  legible : names.Suits before.form → ∀ field ∈ names.texts,
    before.Legible field → after.Legible field

namespace StaysLegible

theorem refl (record : Record) : names.StaysLegible record record :=
  ⟨rfl, fun _ _ _ h => h⟩

theorem trans {before between after : Record} (hfirst : names.StaysLegible before between)
    (hsecond : names.StaysLegible between after) : names.StaysLegible before after where
  form_eq := hsecond.form_eq.trans hfirst.form_eq
  legible hsuits field hfield hbefore := by
    have hbetween := hfirst.legible hsuits field hfield hbefore
    rw [← hfirst.form_eq] at hsuits
    exact hsecond.legible hsuits field hfield hbetween

instance : Std.Refl names.StaysLegible := ⟨refl⟩

instance : Trans names.StaysLegible names.StaysLegible names.StaysLegible := ⟨trans⟩

end StaysLegible

theorem Writes.staysLegible (hnames : names.Distinct) {field : String} {value : FieldValue}
    (hwrites : names.Writes field value) :
    (Edit.assign field value).Leads names.StaysLegible := by
  intro record
  rw [Edit.on_assign]
  cases hassign : record.assign field value with
  | error error => exact .refl record
  | ok assigned =>
      have hset := (Record.assign_eq_ok_iff.1 hassign).2
      have hagree := Record.setField_agreeOff hset
      refine ⟨hagree.form_eq, fun hsuits other hother hbefore => ?_⟩
      by_cases hsame : other = field
      · subst hsame
        obtain ⟨stored, hstore, hstored⟩ := Record.setField_stored hset
        have htime := hsuits.texts other hother
        rw [← hagree.form_eq] at hstore htime
        have hread : ∀ text, value = .string text → assigned.Legible other := by
          rintro text rfl
          have htext := Record.read_of_store?_string htime hstore hstored
          obtain ⟨taken, htaken, -⟩ := Except.map_eq_ok_iff.1 htext
          exact ⟨taken, htaken⟩
        cases hwrites with
        | status text | reason text | message text => exact hread text rfl
        | observedGeneration generation => exact absurd hother hnames.observedGeneration_not_mem
      · unfold Record.Legible
        rw [hagree.read_eq (by simpa using hsame)]
        exact hbefore

end FieldNames

namespace Transition

variable {transition : Transition} {names : FieldNames}

theorem fields_subset_texts : transition.fields names ⊆ names.texts := by
  intro field hfield
  simp only [fields, List.mem_map, List.mem_filter] at hfield
  obtain ⟨part, ⟨hpart, -⟩, rfl⟩ := hfield
  simp only [List.mem_cons, List.not_mem_nil, or_false] at hpart
  rcases hpart with rfl | rfl | rfl <;> simp [FieldNames.texts]

/-- What counts as the state can be read if each of its fields can. -/
theorem exists_values_iff {record : Record} :
    (∃ texts, transition.values names record = .ok texts) ↔
      ∀ field ∈ transition.fields names, record.Legible field := by
  unfold values
  induction transition.fields names with
  | nil => exact iff_of_true ⟨[], rfl⟩ (by simp)
  | cons field rest ih =>
      rw [List.forall_mem_cons, ← ih]
      constructor
      · rintro ⟨texts, h⟩
        obtain ⟨text, others, htext, hothers, -⟩ := Except.mapM_cons_eq_ok_iff.1 h
        obtain ⟨taken, htaken, -⟩ := Except.map_eq_ok_iff.1 htext
        exact ⟨⟨taken, htaken⟩, others, hothers⟩
      · rintro ⟨⟨taken, htaken⟩, others, hothers⟩
        refine ⟨taken.text :: others, Except.mapM_cons_eq_ok_iff.2 ⟨_, _, ?_, hothers, rfl⟩⟩
        exact Except.map_eq_ok_iff.2 ⟨taken, htaken, rfl⟩

/-- The times do not count as the state. -/
theorem changed_iff_of_times {before applied after : Record} (hnames : names.Distinct)
    (h : applied.AgreeOff names.times after) :
    transition.Changed names before after ↔ transition.Changed names before applied := by
  unfold Changed Record.text
  refine exists_congr fun field => and_congr_right fun hfield => ?_
  rw [h.field?_eq (hnames.not_mem_times (fields_subset_texts hfield))]

theorem not_changed_self (record : Record) : ¬ transition.Changed names record record := by
  rintro ⟨field, -, hne⟩
  exact hne rfl

end Transition

namespace Edit

/-- A stamped edit ends where the state cannot be read or the edit proper fails; only then the
timestamps are set. -/
theorem on_stamped (names : FieldNames) (transition : Transition) (now : Instant)
    (edit : Edit Unit) (record : Record) :
    (stamped names transition now edit).on record =
      match transition.values names record with
      | .error error => (.error error, record)
      | .ok old =>
        match edit.on record with
        | (.error error, applied) => (.error error, applied)
        | (.ok (), applied) =>
          match transition.values names applied with
          | .error error => (.error error, applied)
          | .ok new =>
            (do
              if new ≠ old then assignIfExists names.lastTransitionTime (.time now)
              assignIfExists names.lastUpdateTime (.time now) : Edit Unit).on applied := by
  rw [stamped, Attempt.on_bind, on_reading]
  cases transition.values names record with
  | error error => rfl
  | ok old =>
      simp only
      rw [Attempt.on_bind]
      cases edit.on record with
      | mk result applied =>
          cases result with
          | error error => rfl
          | ok _ =>
              simp only
              rw [Attempt.on_bind, on_reading]
              cases transition.values names applied <;> rfl

/-- A field that takes times can be stamped. -/
theorem exists_assignIfExists_time {field : String} {now : Instant} {record : Record}
    (hfield : record.form.hasField field = true)
    (htime : (record.form.store? field (.time now)).isSome) :
    ∃ assigned, (assignIfExists field (.time now)).on record = (.ok (), assigned) := by
  obtain ⟨stored, hstore⟩ := Option.isSome_iff_exists.1 htime
  obtain ⟨assigned, hset⟩ := Record.exists_setField hstore
  have hrecord : record.isRecord = true := by
    obtain ⟨value, hvalue⟩ := Option.isSome_iff_exists.1
      ((record.isSome_field? field).trans hfield)
    exact Record.isRecord_of_field? hvalue
  refine ⟨assigned, ?_⟩
  rw [on_assignIfExists, Record.has_eq_ok_iff.2 ⟨hrecord, rfl⟩, Record.isSome_field?, hfield]
  simp only
  rw [on_assign, Record.assign_eq_ok_iff.2 ⟨hrecord, hset⟩]

/-- A field that takes times is stamped, and what comes after leaves the stamp. -/
theorem stored?_stamped {first : String} {now : Instant} {next : Edit Unit} {record : Record}
    {off : List String} (hfield : record.form.hasField first = true)
    (htime : (record.form.store? first (.time now)).isSome) (hnext : next.Touches off)
    (hoff : first ∉ off) :
    ((do assignIfExists first (.time now); next : Edit Unit).on record).2.stored? first =
      some (record.form.stamp now) := by
  obtain ⟨assigned, hassign⟩ := exists_assignIfExists_time hfield htime
  obtain ⟨-, hstored⟩ := assignIfExists_time hassign
  rw [Attempt.on_bind, hassign, (hnext assigned).stored_eq first hoff, hstored, if_pos hfield]

end Edit

namespace Accessor

variable {accessor : Accessor} {now : Instant} {updates : List Update} {record : Record}

/-- What counts as the state can be read after updates that go through if it could be before. -/
theorem exists_values_of_applied {applied : Record} {old : List String}
    (hnames : accessor.names.Distinct) (hsuits : accessor.names.Suits record.form)
    (hplain : ∀ update ∈ updates, update.IsPlain)
    (happlied : (Update.applyAll accessor updates).on record = (.ok (), applied))
    (hold : accessor.transition.values accessor.names record = .ok old) :
    ∃ new, accessor.transition.values accessor.names applied = .ok new := by
  have hstays := Update.leads_applyAll
    (fun field value => FieldNames.Writes.staysLegible hnames) hplain record
  rw [happlied] at hstays
  refine Transition.exists_values_iff.2 fun field hfield => ?_
  have hlegible := Transition.exists_values_iff.1 ⟨old, hold⟩ field hfield
  exact hstays.legible hsuits field (Transition.fields_subset_texts hfield) hlegible

/-- Updates that go through move the time of the last transition if they change the state, whether
or not the call succeeds in the end. -/
theorem stored?_of_applied {applied : Record} (hnames : accessor.names.Distinct)
    (henabled : accessor.disableTimestampUpdates = false)
    (hsuits : accessor.names.Suits record.form) (hplain : ∀ update ∈ updates, update.IsPlain)
    (htime : (record.field? accessor.names.lastTransitionTime).isSome)
    (happlied : (Update.applyAll accessor updates).on record = (.ok (), applied))
    (hchanged : accessor.transition.Changed accessor.names record
      ((accessor.update now updates).on record).2) :
    ((accessor.update now updates).on record).2.stored? accessor.names.lastTransitionTime =
      some (record.form.stamp now) := by
  have hagree := (Update.touches_applyAll_of_isPlain hplain accessor).agreeOff happlied
  rw [update, henabled, if_neg (by decide), Edit.on_stamped] at hchanged ⊢
  cases hold : accessor.transition.values accessor.names record with
  | error error =>
      rw [hold] at hchanged
      exact absurd hchanged (Transition.not_changed_self record)
  | ok old =>
      obtain ⟨new, hnew⟩ := exists_values_of_applied hnames hsuits hplain happlied hold
      simp only [hold, happlied, hnew] at hchanged ⊢
      by_cases hne : new ≠ old
      · have hlast : (Edit.assignIfExists accessor.names.lastUpdateTime (.time now)).Touches
            [accessor.names.lastUpdateTime] := Edit.touches_assignIfExists List.mem_cons_self _
        have hfield : applied.form.hasField accessor.names.lastTransitionTime = true := by
          rw [hagree.form_eq, ← Record.isSome_field?]
          exact htime
        rw [if_pos hne, ← hagree.form_eq]
        rw [← hagree.form_eq] at hsuits
        exact Edit.stored?_stamped hfield (hsuits.time hfield now) hlast
          (by simpa using hnames.times_ne)
      · have htimes : (Edit.assignIfExists accessor.names.lastUpdateTime (.time now)).Touches
            accessor.names.times := Edit.touches_assignIfExists (by simp [FieldNames.times]) _
        rw [if_neg hne, Transition.changed_iff_of_times hnames (htimes applied)] at hchanged
        exact absurd hchanged (mt (Transition.values_ne_iff hold hnew).2 hne)

/-- An update that fails on the way leaves the time of the last transition as it was. -/
theorem stored?_of_failed {applied : Record} {error : AccessError}
    (hnames : accessor.names.Distinct) (henabled : accessor.disableTimestampUpdates = false)
    (hplain : ∀ update ∈ updates, update.IsPlain)
    (hfailed : (Update.applyAll accessor updates).on record = (.error error, applied)) :
    ((accessor.update now updates).on record).2.stored? accessor.names.lastTransitionTime =
      record.stored? accessor.names.lastTransitionTime := by
  have htouches := Update.touches_applyAll_of_isPlain hplain accessor
  have hagree := htouches.agreeOff hfailed
  have hoff := hnames.not_mem_state
    (show accessor.names.lastTransitionTime ∈ accessor.names.times by simp [FieldNames.times])
  rw [update, henabled, if_neg (by decide), Edit.on_stamped, hfailed]
  cases accessor.transition.values accessor.names record with
  | error error => rfl
  | ok old => exact hagree.stored_eq _ hoff

/-- A call that ends at a time: an update of one condition, of the condition of a type in a list, or
the same for a list that may be unset, with its result and the list that it leaves. -/
inductive Step (accessor : Accessor) (kind : RecordKind) (now : Instant) (updates : List Update) :
    Option (List Record) → Except AccessError Unit → Option (List Record) → Prop where
  | update (position : Nat) (conditions : List Record) :
      Step accessor kind now updates (some conditions)
        (accessor.updateAt now position updates conditions).1
        (some (accessor.updateAt now position updates conditions).2)
  | list (begun : Instant) (type : String) (conditions : List Record) :
      Step accessor kind now updates (some conditions)
        (accessor.updateListBetween begun now kind type updates conditions).1
        (some (accessor.updateListBetween begun now kind type updates conditions).2)
  | optionalList (begun : Instant) (type : String) (conditions : Option (List Record)) :
      Step accessor kind now updates conditions
        (accessor.updateOptionalListBetween begun now kind type updates conditions).1
        (accessor.updateOptionalListBetween begun now kind type updates conditions).2

/-- Every condition of a list is left alone or updated; a call that updates one has its result. -/
def Edits (accessor : Accessor) (now : Instant) (updates : List Update) (before : List Record)
    (outcome : Except AccessError Unit × List Record) : Prop :=
  ∀ (position : Nat) (record changed : Record), before[position]? = some record →
    outcome.2[position]? = some changed →
    changed = record ∨ (accessor.update now updates).on record = (outcome.1, changed)

theorem Edits.refl (conditions : List Record) (result : Except AccessError Unit) :
    accessor.Edits now updates conditions (result, conditions) := by
  intro position record changed hrecord hchanged
  exact .inl (Option.some.inj (hchanged.symm.trans hrecord))

/-- One condition is updated in its place. -/
theorem edits_set {conditions : List Record} {position : Nat} {changed : Record}
    {result : Except AccessError Unit} (hrecord : conditions[position]? = some record)
    (hupdate : (accessor.update now updates).on record = (result, changed)) :
    accessor.Edits now updates conditions (result, conditions.set position changed) := by
  intro other found after hfound hafter
  by_cases hsame : position = other
  · subst hsame
    obtain ⟨hlt, -⟩ := List.getElem?_eq_some_iff.1 hrecord
    rw [List.getElem?_set_self hlt, Option.some.injEq] at hafter
    obtain rfl : record = found := Option.some.inj (hrecord.symm.trans hfound)
    exact .inr (hafter ▸ hupdate)
  · rw [List.getElem?_set_ne hsame] at hafter
    exact .inl (Option.some.inj (hafter.symm.trans hfound))

theorem edits_updateAt (accessor : Accessor) (now : Instant) (updates : List Update)
    (position : Nat) (conditions : List Record) :
    accessor.Edits now updates conditions (accessor.updateAt now position updates conditions) := by
  unfold updateAt
  cases hrecord : conditions[position]? with
  | none => exact .refl conditions _
  | some record => exact edits_set hrecord rfl

theorem edits_updateListBetween (accessor : Accessor) (begun now : Instant) (kind : RecordKind)
    (type : String) (updates : List Update) (conditions : List Record) :
    accessor.Edits now updates conditions
      (accessor.updateListBetween begun now kind type updates conditions) := by
  have hcall := updates_updateListBetween accessor begun now kind type updates conditions
  generalize accessor.updateListBetween begun now kind type updates conditions = outcome at hcall ⊢
  cases hcall with
  | unreadable error => exact .refl conditions _
  | found hrecord _ hupdate => exact edits_set hrecord hupdate
  | refused error => exact .refl conditions _
  | appended =>
      intro position record changed hrecord hchanged
      obtain ⟨hlt, -⟩ := List.getElem?_eq_some_iff.1 hrecord
      rw [List.getElem?_append_left hlt] at hchanged
      exact .inl (Option.some.inj (hchanged.symm.trans hrecord))

theorem Step.edits {kind : RecordKind} {before after : Option (List Record)}
    {result : Except AccessError Unit} (h : accessor.Step kind now updates before result after) :
    accessor.Edits now updates (before.getD []) (result, after.getD []) := by
  cases h with
  | update position conditions => exact edits_updateAt accessor now updates position conditions
  | list begun type conditions =>
      exact edits_updateListBetween accessor begun now kind type updates conditions
  | optionalList begun type conditions =>
      exact edits_updateListBetween accessor begun now kind type updates (before.getD [])

theorem stored?_of_ok {after : Record} (hnames : accessor.names.Distinct)
    (henabled : accessor.disableTimestampUpdates = false)
    (hplain : ∀ update ∈ updates, update.IsPlain)
    (htime : (record.field? accessor.names.lastTransitionTime).isSome)
    (hupdate : (accessor.update now updates).on record = (.ok (), after))
    (hchanged : accessor.transition.Changed accessor.names record after) :
    after.stored? accessor.names.lastTransitionTime = some (record.form.stamp now) := by
  obtain ⟨applied, -, hstamps⟩ := stamps_update hnames hplain hupdate
  have happlied := (Transition.changed_iff_of_times hnames hstamps.others).1 hchanged
  rw [hstamps.lastTransitionTime, if_pos ⟨henabled, htime, happlied⟩]

/-- A call that succeeds, and changes the state of a condition which has a time of the last
transition, sets that time to its own.  Whether it succeeds or not, it sets the time exactly if its
updates all go through: an update that fails on the way leaves the time as it was. -/
theorem step_stamps_iff {kind : RecordKind} {before after : Option (List Record)}
    {result : Except AccessError Unit} {position : Nat} {record changed : Record}
    (hnames : accessor.names.Distinct) (henabled : accessor.disableTimestampUpdates = false)
    (hplain : ∀ update ∈ updates, update.IsPlain)
    (hstep : accessor.Step kind now updates before result after)
    (hrecord : (before.getD [])[position]? = some record)
    (hafter : (after.getD [])[position]? = some changed)
    (htime : (record.field? accessor.names.lastTransitionTime).isSome)
    (hchanged : accessor.transition.Changed accessor.names record changed) :
    (result = .ok () →
      changed.stored? accessor.names.lastTransitionTime = some (record.form.stamp now)) ∧
    (accessor.names.Suits record.form →
      (changed.stored? accessor.names.lastTransitionTime = some (record.form.stamp now) ↔
        (∃ applied, (Update.applyAll accessor updates).on record = (.ok (), applied)) ∨
          record.stored? accessor.names.lastTransitionTime = some (record.form.stamp now))) := by
  rcases hstep.edits position record changed hrecord hafter with rfl | hupdate
  · exact absurd hchanged (Transition.not_changed_self changed)
  refine ⟨?_, fun hsuits => ?_⟩
  · rintro rfl
    exact stored?_of_ok hnames henabled hplain htime hupdate hchanged
  obtain rfl : ((accessor.update now updates).on record).2 = changed := congrArg Prod.snd hupdate
  cases happlied : (Update.applyAll accessor updates).on record with
  | mk outcome applied =>
      cases outcome with
      | ok _ =>
          have hstamp := stored?_of_applied hnames henabled hsuits hplain htime happlied hchanged
          exact iff_of_true hstamp (.inl ⟨applied, rfl⟩)
      | error error =>
          rw [@stored?_of_failed accessor now updates record applied error hnames henabled hplain
            happlied]
          simp

/-- The condition of a pod that is ready or not since a time. -/
def podReady (status : Status) (since : Instant) : Record :=
  .typed ⟨.pod, [("type", ⟨.string, .string "Ready", rfl⟩),
    ("status", ⟨.string, .string status.name, rfl⟩), ("reason", ⟨.optionalString, .null, rfl⟩),
    ("message", ⟨.optionalString, .null, rfl⟩),
    ("lastTransitionTime", ⟨.optionalTime, .time since, rfl⟩),
    ("lastProbeTime", ⟨.optionalTime, .null, rfl⟩)], rfl⟩

theorem step_stamps_iff_podReady :
    let before := podReady .true (.ofSeconds 0)
    let after := podReady .false (.ofSeconds 61)
    updateListBetween {} (.ofSeconds 60) (.ofSeconds 61) (.typed .pod) "Ready" [.status .false]
        [before] = (.ok (), [after]) ∧
      after.stored? "lastTransitionTime" = some (.inl (.time (.ofSeconds 61))) ∧
      ∃ applied, (Update.applyAll {} [.status .false]).on before = (.ok (), applied) := by
  intro before after
  have hcall : updateListBetween {} (.ofSeconds 60) (.ofSeconds 61) (.typed .pod) "Ready"
      [.status .false] [before] = (.ok (), [after]) := by decide +kernel
  have hstep : Step {} (.typed .pod) (.ofSeconds 61) [.status .false] (some [before]) _ _ :=
    .list (.ofSeconds 60) "Ready" [before]
  rw [hcall] at hstep
  obtain ⟨hok, hiff⟩ := @step_stamps_iff {} (.ofSeconds 61) [.status .false] _ _ _ _ 0 before after
    (by decide) rfl (by simp [Update.IsPlain]) hstep rfl rfl (by decide) (by decide)
  have hstamp := hok rfl
  have hthrough := (hiff (FieldNames.suits_default _)).1 hstamp
  exact ⟨hcall, hstamp, hthrough.resolve_right (by decide)⟩

/-- A pod has no observed generation.  A call that sets the status and then the observed generation
fails and leaves the new status beside the old time; a later call with the same status succeeds and
finds no transition. -/
theorem podReady_loses_transition :
    let before := podReady .true (.ofSeconds 0)
    let after := podReady .false (.ofSeconds 0)
    (∃ error, updateList {} (.ofSeconds 60) (.typed .pod) "Ready"
        [.status .false, .observedGeneration 7] [before] = (.error error, [after])) ∧
      Transition.Changed {} {} before after ∧
      after.stored? "lastTransitionTime" ≠ some (.inl (.time (.ofSeconds 60))) ∧
      updateList {} (.ofSeconds 120) (.typed .pod) "Ready" [.status .false] [after] =
        (.ok (), [after]) := by
  intro before after
  refine ⟨⟨.missingField "observedGeneration" "PodCondition", ?_⟩, by decide, by decide, ?_⟩
  · decide +kernel
  · decide +kernel

end Accessor

end Reconciler.Condition
