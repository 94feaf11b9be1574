import Reconciler.Proofs.Condition.Transitions
/-!
The timestamps of conditions while time goes on.  The clock is read once by a call that finds its
condition, and twice by one that appends it; however the call ends, a time moves to what the clock
showed or stays.  So no condition was updated before it last transitioned, or after the present.
-/
namespace Reconciler.Condition

namespace Record.Form

/-- Both timestamps are there and kept as times. -/
structure KeepsTimes (form : Form) (names : FieldNames) : Prop where
  hasField : ∀ field ∈ names.times, form.hasField field = true
  takes : ∀ field ∈ names.times, ∀ now, (form.store? field (.time now)).isSome

theorem canShow_of_civil {now : Instant} (hcivil : now.Civil) (form : Form) : form.CanShow now := by
  cases form with
  | typed type => trivial
  | _ => exact hcivil

theorem shown_le (form : Form) (now : Instant) : form.shown now ≤ now := by
  cases form with
  | typed type => exact now.le_refl
  | _ => exact now.truncate_le

theorem shown_le_shown (form : Form) {first second : Instant} (h : first ≤ second) :
    form.shown first ≤ form.shown second := by
  cases form with
  | typed type => exact h
  | _ => exact Instant.truncate_le_truncate h

end Record.Form

/-- The records of conditions that have both timestamps under the default names. -/
theorem RecordKind.keepsTimes_default {kind : RecordKind}
    (hkind : kind = .typed .deployment ∨ kind = .map ∨ kind = .json) :
    kind.form.KeepsTimes {} := by
  have htimes : ∀ field ∈ FieldNames.times {}, field = "lastTransitionTime" ∨
      field = "lastUpdateTime" := by
    intro field hfield
    simpa [FieldNames.times] using hfield
  constructor
  · intro field hfield
    rcases hkind with rfl | rfl | rfl
    · rcases htimes field hfield with rfl | rfl <;> decide
    · rfl
    · rfl
  · intro field hfield now
    rcases hkind with rfl | rfl | rfl
    · rcases htimes field hfield with rfl | rfl <;> rfl
    · rfl
    · rfl

/-- Both timestamps can be set, one of them or both. -/
theorem Edit.exists_stamped {names : FieldNames} {record : Record}
    (htimes : record.form.KeepsTimes names) (now : Instant) (moved : Prop) [Decidable moved] :
    ∃ after, (do
      if moved then assignIfExists names.lastTransitionTime (.time now)
      assignIfExists names.lastUpdateTime (.time now) : Edit Unit).on record = (.ok (), after) := by
  have hfirst : names.lastTransitionTime ∈ names.times := by simp [FieldNames.times]
  have hlast : names.lastUpdateTime ∈ names.times := by simp [FieldNames.times]
  by_cases hmoved : moved
  · obtain ⟨between, hbetween⟩ := exists_assignIfExists_time (htimes.hasField _ hfirst)
      (htimes.takes _ hfirst now)
    obtain ⟨hagree, -⟩ := assignIfExists_time hbetween
    rw [← hagree.form_eq] at htimes
    obtain ⟨after, hafter⟩ := exists_assignIfExists_time (htimes.hasField _ hlast)
      (htimes.takes _ hlast now)
    refine ⟨after, ?_⟩
    rw [if_pos hmoved, Attempt.on_bind, hbetween]
    exact hafter
  · obtain ⟨after, hafter⟩ := exists_assignIfExists_time (htimes.hasField _ hlast)
      (htimes.takes _ hlast now)
    refine ⟨after, ?_⟩
    rw [if_neg hmoved]
    exact hafter

namespace Accessor

variable {accessor : Accessor} {kind : RecordKind} {now begun ended : Instant} {type : String}
  {updates : List Update} {record changed : Record} {conditions : List Record}

/-! One condition. -/

/-- An update that fails leaves both timestamps as they are: they are only set when nothing can fail
any more. -/
theorem stored?_of_error {error : AccessError} {field : String} (hnames : accessor.names.Distinct)
    (henabled : accessor.disableTimestampUpdates = false)
    (hplain : ∀ update ∈ updates, update.IsPlain)
    (htimes : record.form.KeepsTimes accessor.names)
    (h : (accessor.update now updates).on record = (.error error, changed))
    (hfield : field ∈ accessor.names.times) :
    changed.stored? field = record.stored? field := by
  have htouches := Update.touches_applyAll_of_isPlain hplain accessor
  have hoff := hnames.not_mem_state hfield
  rw [update, henabled, if_neg (by decide), Edit.on_stamped] at h
  cases hold : accessor.transition.values accessor.names record with
  | error unread =>
      simp only [hold, Prod.mk.injEq] at h
      rw [h.2]
  | ok old =>
      simp only [hold] at h
      rcases hedit : (Update.applyAll accessor updates).on record with ⟨failed | _, applied⟩
      · simp only [hedit, Prod.mk.injEq] at h
        rw [← h.2]
        exact (htouches.agreeOff hedit).stored_eq field hoff
      · have hagree := htouches.agreeOff hedit
        simp only [hedit] at h
        cases hnew : accessor.transition.values accessor.names applied with
        | error unread =>
            simp only [hnew, Prod.mk.injEq] at h
            rw [← h.2]
            exact hagree.stored_eq field hoff
        | ok new =>
            simp only [hnew] at h
            rw [← hagree.form_eq] at htimes
            obtain ⟨after, hafter⟩ := Edit.exists_stamped htimes now (new ≠ old)
            rw [hafter] at h
            cases h

/-- An update that succeeds sets the time of the last update, and sets the time of the last
transition or leaves it. -/
theorem Stamps.moves {applied : Record} (h : accessor.Stamps now record applied changed)
    (henabled : accessor.disableTimestampUpdates = false)
    (htimes : record.form.KeepsTimes accessor.names) :
    changed.stored? accessor.names.lastUpdateTime = some (changed.form.stamp now) ∧
      (changed.stored? accessor.names.lastTransitionTime = some (changed.form.stamp now) ∨
        changed.stored? accessor.names.lastTransitionTime =
          record.stored? accessor.names.lastTransitionTime) := by
  have hhas : ∀ field ∈ accessor.names.times, (record.field? field).isSome := by
    intro field hfield
    rw [Record.isSome_field?]
    exact htimes.hasField field hfield
  have hfirst := hhas accessor.names.lastTransitionTime (by simp [FieldNames.times])
  have hlast := hhas accessor.names.lastUpdateTime (by simp [FieldNames.times])
  constructor
  · rw [h.lastUpdateTime, if_pos ⟨henabled, hlast⟩, h.form]
  · by_cases hchanged : accessor.transition.Changed accessor.names record applied
    · left
      rw [h.lastTransitionTime, if_pos ⟨henabled, hfirst, hchanged⟩, h.form]
    · right
      rw [h.lastTransitionTime, if_neg fun hall => hchanged hall.2.2]

/-- The timestamps that a condition is kept with, in order and not after the present. -/
structure Dated (accessor : Accessor) (now : Instant) (record : Record)
    (transitioned updated : Instant) : Prop where
  transition : record.stored? accessor.names.lastTransitionTime =
    some (record.form.stamp transitioned)
  update : record.stored? accessor.names.lastUpdateTime = some (record.form.stamp updated)
  ordered : transitioned ≤ updated
  past : updated ≤ now
  civil : transitioned.Civil ∧ updated.Civil

variable {transitioned updated : Instant}

theorem Dated.mono {later : Instant} (h : accessor.Dated now record transitioned updated)
    (hlater : now ≤ later) : accessor.Dated later record transitioned updated :=
  { h with past := Instant.le_trans h.past hlater }

theorem Dated.lastTransitionTime (h : accessor.Dated now record transitioned updated) :
    accessor.lastTransitionTime record = .ok (some (record.form.shown transitioned)) :=
  Record.read_stamp (Record.Form.canShow_of_civil h.civil.1 _) h.transition

theorem Dated.lastUpdateTime (h : accessor.Dated now record transitioned updated) :
    accessor.lastUpdateTime record = .ok (some (record.form.shown updated)) :=
  Record.read_stamp (Record.Form.canShow_of_civil h.civil.2 _) h.update

/-- An update moves the timestamps to the present or leaves them, and the time of the last
transition moves only with that of the last update. -/
theorem Dated.after_update (h : accessor.Dated now record transitioned updated)
    (hnames : accessor.names.Distinct) (henabled : accessor.disableTimestampUpdates = false)
    (htimes : record.form.KeepsTimes accessor.names)
    (hplain : ∀ update ∈ updates, update.IsPlain) (hended : now ≤ ended) (hcivil : ended.Civil) :
    ∃ transitioned' updated',
      accessor.Dated ended ((accessor.update ended updates).on record).2 transitioned' updated' ∧
        transitioned ≤ transitioned' ∧ updated ≤ updated' := by
  have hform := (accessor.touches_update ended updates record).form_eq
  have hpast := Instant.le_trans h.past hended
  have hordered := Instant.le_trans h.ordered hpast
  rcases hupdate : (accessor.update ended updates).on record with ⟨error | _, changed⟩
  · rw [hupdate] at hform
    have hstored : ∀ field ∈ accessor.names.times,
        changed.stored? field = record.stored? field := fun field hfield =>
      stored?_of_error hnames henabled hplain htimes hupdate hfield
    refine ⟨transitioned, updated, ⟨?_, ?_, h.ordered, hpast, h.civil⟩, transitioned.le_refl,
      updated.le_refl⟩
    · rw [hstored _ (by simp [FieldNames.times]), hform]
      exact h.transition
    · rw [hstored _ (by simp [FieldNames.times]), hform]
      exact h.update
  · obtain ⟨applied, -, hstamps⟩ := stamps_update hnames hplain hupdate
    obtain ⟨hlast, hfirst | hfirst⟩ := hstamps.moves henabled htimes
    · exact ⟨ended, ended, ⟨hfirst, hlast, ended.le_refl, ended.le_refl, hcivil, hcivil⟩,
        hordered, hpast⟩
    · rw [h.transition, ← hstamps.form] at hfirst
      exact ⟨transitioned, ended, ⟨hfirst, hlast, hordered, ended.le_refl, h.civil.1, hcivil⟩,
        transitioned.le_refl, hpast⟩

/-- A new condition has last transitioned when it was begun or when it was finished, and was updated
when it was finished. -/
theorem dated_startBetween (hnames : accessor.names.Distinct)
    (henabled : accessor.disableTimestampUpdates = false)
    (htimes : kind.form.KeepsTimes accessor.names) (hplain : ∀ update ∈ updates, update.IsPlain)
    (hended : begun ≤ ended) (hcivil : begun.Civil ∧ ended.Civil)
    (hstart : (accessor.startBetween begun ended type updates).on (.blank kind begun) =
      (.ok (), record)) :
    record.form = kind.form ∧ ∃ transitioned, accessor.Dated ended record transitioned ended := by
  obtain ⟨_, named, hname, hstart⟩ := Attempt.on_bind_eq_ok.1 hstart
  obtain ⟨_, fresh, hfresh, hupdate⟩ := Attempt.on_bind_eq_ok.1 hstart
  have hnamed : named.form = kind.form :=
    (Record.setField_agreeOff (Edit.setField_of_assign hname)).form_eq.trans
      (kind.form_blank begun)
  obtain ⟨hagree, hbegun⟩ := Edit.assignIfExists_time hfresh
  have hform : fresh.form = kind.form := hagree.form_eq.trans hnamed
  rw [if_pos (hnamed ▸ htimes.hasField _ (by simp [FieldNames.times])), ← hagree.form_eq] at hbegun
  obtain ⟨applied, -, hstamps⟩ := stamps_update hnames hplain hupdate
  obtain ⟨hlast, hfirst | hfirst⟩ := hstamps.moves henabled (hform ▸ htimes)
  · exact ⟨hstamps.form.trans hform, ended, hfirst, hlast, ended.le_refl, ended.le_refl, hcivil.2,
      hcivil.2⟩
  · rw [hbegun, ← hstamps.form] at hfirst
    exact ⟨hstamps.form.trans hform, begun, hfirst, hlast, hended, ended.le_refl, hcivil.1,
      hcivil.2⟩

/-! Lists of conditions. -/

/-- An accessor that keeps both timestamps of the conditions of a kind. -/
structure KeepsTimes (accessor : Accessor) (kind : RecordKind) : Prop where
  distinct : accessor.names.Distinct
  enabled : accessor.disableTimestampUpdates = false
  form : kind.form.KeepsTimes accessor.names

/-- A call that starts after a time and ends at another, whether it succeeds or not, with the list
before it and the list that it leaves. -/
inductive Called (accessor : Accessor) (kind : RecordKind) :
    Instant → List Record → Instant → List Record → Prop where
  | intro {now begun ended : Instant} (type : String) (updates : List Update)
      (conditions : List Record) (hbegun : now ≤ begun) (hended : begun ≤ ended)
      (hcivil : begun.Civil ∧ ended.Civil) (hplain : ∀ update ∈ updates, update.IsPlain) :
      Called accessor kind now conditions ended
        (accessor.updateListBetween begun ended kind type updates conditions).2

/-- The lists that calls lead to from an empty one, each with the time of the last call. -/
inductive Timeline (accessor : Accessor) (kind : RecordKind) : Instant → List Record → Prop where
  | start (now : Instant) : Timeline accessor kind now []
  | call {now later : Instant} {before after : List Record}
      (earlier : Timeline accessor kind now before)
      (last : Called accessor kind now before later after) : Timeline accessor kind later after

/-- Every condition of a list is of one kind and has both timestamps. -/
def AllDated (accessor : Accessor) (kind : RecordKind) (now : Instant)
    (conditions : List Record) : Prop :=
  ∀ record ∈ conditions, record.form = kind.form ∧
    ∃ transitioned updated, accessor.Dated now record transitioned updated

/-- A condition stays what it is, and its timestamps do not go back. -/
structure Advances (accessor : Accessor) (now later : Instant) (record changed : Record) :
    Prop where
  form : changed.form = record.form
  type : accessor.type changed = accessor.type record
  dated : ∀ transitioned updated, accessor.Dated now record transitioned updated →
    ∃ transitioned' updated', accessor.Dated later changed transitioned' updated' ∧
      transitioned ≤ transitioned' ∧ updated ≤ updated'

theorem Advances.refl {later : Instant} (record : Record) (hlater : now ≤ later) :
    accessor.Advances now later record record where
  form := rfl
  type := rfl
  dated transitioned updated h :=
    ⟨transitioned, updated, h.mono hlater, transitioned.le_refl, updated.le_refl⟩

theorem advances_update (hkeeps : accessor.KeepsTimes kind) (hform : record.form = kind.form)
    (hplain : ∀ update ∈ updates, update.IsPlain) (hended : now ≤ ended) (hcivil : ended.Civil) :
    accessor.Advances now ended record ((accessor.update ended updates).on record).2 where
  form := (accessor.touches_update ended updates record).form_eq
  type := type_update hkeeps.distinct ended updates record
  dated _ _ h :=
    h.after_update hkeeps.distinct hkeeps.enabled (hform ▸ hkeeps.form) hplain hended hcivil

variable {later : Instant} {after : List Record}

theorem AllDated.mono (h : accessor.AllDated kind now conditions) (hlater : now ≤ later) :
    accessor.AllDated kind later conditions := by
  intro record hrecord
  obtain ⟨hform, transitioned, updated, hdated⟩ := h record hrecord
  exact ⟨hform, transitioned, updated, hdated.mono hlater⟩

/-- After a call every condition of the list still has both timestamps. -/
theorem Called.allDated (hcall : accessor.Called kind now conditions later after)
    (hkeeps : accessor.KeepsTimes kind) (h : accessor.AllDated kind now conditions) :
    accessor.AllDated kind later after := by
  obtain @⟨begun, _, type, updates, conditions, hbegun, hended, hcivil, hplain⟩ := hcall
  have hlater := Instant.le_trans hbegun hended
  have hcall := updates_updateListBetween accessor begun later kind type updates conditions
  generalize accessor.updateListBetween begun later kind type updates conditions = outcome
    at hcall ⊢
  cases hcall with
  | unreadable error => exact h.mono hlater
  | refused error => exact h.mono hlater
  | @found position record changed result hrecord _ hupdate =>
      intro other hother
      rcases List.mem_or_eq_of_mem_set hother with hmem | rfl
      · exact h.mono hlater other hmem
      · obtain ⟨hform, transitioned, updated, hdated⟩ := h record (List.mem_of_getElem? hrecord)
        have hadvances := advances_update hkeeps hform hplain hlater hcivil.2
        rw [hupdate] at hadvances
        obtain ⟨transitioned', updated', hdated', -, -⟩ := hadvances.dated _ _ hdated
        exact ⟨hadvances.form.trans hform, transitioned', updated', hdated'⟩
  | appended _ hstart =>
      intro other hother
      rcases List.mem_append.1 hother with hmem | hnew
      · exact h.mono hlater other hmem
      · obtain rfl := List.mem_singleton.1 hnew
        obtain ⟨hform, transitioned, hdated⟩ := dated_startBetween hkeeps.distinct hkeeps.enabled
          hkeeps.form hplain hended hcivil hstart
        exact ⟨hform, transitioned, later, hdated⟩

/-- A call keeps every condition in its place. -/
theorem Called.advances (hcall : accessor.Called kind now conditions later after)
    (hkeeps : accessor.KeepsTimes kind) (h : accessor.AllDated kind now conditions)
    {position : Nat} (hrecord : conditions[position]? = some record) :
    ∃ changed, after[position]? = some changed ∧
      accessor.Advances now later record changed := by
  obtain @⟨begun, _, type, updates, conditions, hbegun, hended, hcivil, hplain⟩ := hcall
  have hlater := Instant.le_trans hbegun hended
  obtain ⟨hlt, -⟩ := List.getElem?_eq_some_iff.1 hrecord
  have hcall := updates_updateListBetween accessor begun later kind type updates conditions
  generalize accessor.updateListBetween begun later kind type updates conditions = outcome
    at hcall ⊢
  cases hcall with
  | unreadable error => exact ⟨record, hrecord, .refl record hlater⟩
  | refused error => exact ⟨record, hrecord, .refl record hlater⟩
  | @found target found changed result hfound _ hupdate =>
      by_cases htarget : target = position
      · subst htarget
        obtain rfl : found = record := Option.some.inj (hfound.symm.trans hrecord)
        obtain ⟨hform, -⟩ := h found (List.mem_of_getElem? hrecord)
        have hadvances := advances_update hkeeps hform hplain hlater hcivil.2
        rw [hupdate] at hadvances
        exact ⟨changed, List.getElem?_set_self hlt, hadvances⟩
      · rw [List.getElem?_set_ne htarget]
        exact ⟨record, hrecord, .refl record hlater⟩
  | appended =>
      rw [List.getElem?_append_left hlt]
      exact ⟨record, hrecord, .refl record hlater⟩

theorem Timeline.allDated (h : accessor.Timeline kind now conditions)
    (hkeeps : accessor.KeepsTimes kind) : accessor.AllDated kind now conditions := by
  induction h with
  | start now =>
      intro record hrecord
      cases hrecord
  | call _ last ih => exact last.allDated hkeeps ih

/-- The timestamps that are read from a condition. -/
structure Shows (accessor : Accessor) (record : Record) (transitioned updated : Instant) :
    Prop where
  lastTransitionTime : accessor.lastTransitionTime record = .ok (some transitioned)
  lastUpdateTime : accessor.lastUpdateTime record = .ok (some updated)

theorem Dated.shows (h : accessor.Dated now record transitioned updated) :
    accessor.Shows record (record.form.shown transitioned) (record.form.shown updated) :=
  ⟨h.lastTransitionTime, h.lastUpdateTime⟩

/-- A default accessor, whatever counts as a transition, keeps both timestamps of deployment
conditions and of JSON objects. -/
theorem keepsTimes_default (transition : Transition)
    (hkind : kind = .typed .deployment ∨ kind = .map ∨ kind = .json) :
    ({ transition } : Accessor).KeepsTimes kind where
  distinct := by
    have hdistinct : ({} : FieldNames).Distinct := by decide
    exact hdistinct
  enabled := rfl
  form := RecordKind.keepsTimes_default hkind

/-- However many calls succeed or fail while time goes on, every condition has both timestamps, it
did not transition after it was updated, and was not updated after the present; and no call moves a
timestamp back. -/
theorem Timeline.times_ordered {transition : Transition}
    (hkind : kind = .typed .deployment ∨ kind = .map ∨ kind = .json)
    (h : ({ transition } : Accessor).Timeline kind now conditions) :
    (∀ record ∈ conditions, ∃ transitioned updated,
      Shows { transition } record transitioned updated ∧
        transitioned ≤ updated ∧ updated ≤ now) ∧
    ∀ later after, Called { transition } kind now conditions later after →
      ∀ (position : Nat) (record : Record), conditions[position]? = some record →
        ∃ changed, after[position]? = some changed ∧
          Accessor.type { transition } changed = Accessor.type { transition } record ∧
          ∃ transitioned updated transitioned' updated',
            Shows { transition } record transitioned updated ∧
            Shows { transition } changed transitioned' updated' ∧
            transitioned ≤ transitioned' ∧ updated ≤ updated' := by
  have hkeeps := keepsTimes_default transition hkind
  have hall := h.allDated hkeeps
  constructor
  · intro record hrecord
    obtain ⟨-, transitioned, updated, hdated⟩ := hall record hrecord
    have hpast := Instant.le_trans (record.form.shown_le updated) hdated.past
    exact ⟨_, _, hdated.shows, record.form.shown_le_shown hdated.ordered, hpast⟩
  · intro later after hcall position record hrecord
    obtain ⟨changed, hchanged, hadvances⟩ := hcall.advances hkeeps hall hrecord
    obtain ⟨-, transitioned, updated, hdated⟩ := hall record (List.mem_of_getElem? hrecord)
    obtain ⟨transitioned', updated', hdated', hfirst, hlast⟩ :=
      hadvances.dated transitioned updated hdated
    have hshows := hdated'.shows
    rw [hadvances.form] at hshows
    exact ⟨changed, hchanged, hadvances.type, _, _, _, _, hdated.shows, hshows,
      record.form.shown_le_shown hfirst, record.form.shown_le_shown hlast⟩

/-- A condition that was begun in one second and finished in the next one, which has transitioned
before it was updated; then its status is set. -/
theorem Timeline.times_ordered_started :
    let begun : Instant := ⟨0, 900000000, by decide⟩
    let ended : Instant := ⟨1, 500000000, by decide⟩
    let started : Record := .json (.obj [("lastTransitionTime", .str "1970-01-01T00:00:00Z"),
      ("lastUpdateTime", .str "1970-01-01T00:00:01Z"), ("reason", .str "Started"),
      ("type", .str "Ready")])
    updateListBetween {} begun ended .json "Ready" [.reason "Started"] [] =
        (.ok (), [started]) ∧
      (∃ transitioned updated, Shows {} started transitioned updated ∧
        transitioned ≤ updated ∧ updated ≤ ended) ∧
      ∃ changed, (updateListBetween {} (.ofSeconds 60) (.ofSeconds 60) .json "Ready"
          [.status .true] [started]).2[0]? = some changed ∧
        ∃ transitioned updated transitioned' updated',
          Shows {} started transitioned updated ∧ Shows {} changed transitioned' updated' ∧
          transitioned ≤ transitioned' ∧ updated ≤ updated' := by
  intro begun ended started
  have hstart : updateListBetween {} begun ended .json "Ready" [.reason "Started"] [] =
      (.ok (), [started]) := by decide +kernel
  have hfirst : Called {} .json begun [] ended
      (updateListBetween {} begun ended .json "Ready" [.reason "Started"] []).2 :=
    .intro "Ready" [.reason "Started"] [] begun.le_refl (by decide) (by decide)
      (by simp [Update.IsPlain])
  have hsecond : Called {} .json ended [started] (.ofSeconds 60)
      (updateListBetween {} (.ofSeconds 60) (.ofSeconds 60) .json "Ready"
        [.status .true] [started]).2 :=
    .intro "Ready" [.status .true] [started] (by decide) (by decide) (by decide)
      (by simp [Update.IsPlain])
  rw [hstart] at hfirst
  obtain ⟨hordered, hcalls⟩ := Timeline.times_ordered (.inr (.inr rfl))
    (.call (.start begun) hfirst)
  obtain ⟨changed, hchanged, -, htimes⟩ := hcalls _ _ hsecond 0 started rfl
  exact ⟨hstart, hordered started List.mem_cons_self, changed, hchanged, htimes⟩

end Accessor

end Reconciler.Condition
