import Reconciler.Proofs.Condition.Verdict
/-!
Lists of conditions of deployments that are made to say something in the first condition of a type.
A list that says it already stays as it is, but for the time of the last update of that condition.
-/
namespace Reconciler.Condition

namespace Verdict

variable {verdict : Verdict} {now : Instant} {type : String} {record : Record}
  {conditions others : List Record} {position : Nat}

/-- The type of a condition can be set. -/
theorem exists_named (type : String) (h : record.Rereadable) :
    ∃ named, (({} : Accessor).setType type).on record = (.ok (), named) ∧ named.Rereadable := by
  obtain ⟨named, hnamed⟩ : ∃ named, (({} : Accessor).setType type).on record = (.ok (), named) := by
    apply Edit.exists_assign_iff.2
    rw [Record.Form.Takes, h.form]
    rfl
  have hagree := Record.setField_agreeOff (Edit.setField_of_assign hnamed)
  refine ⟨named, hnamed, h.of_agreeOff hagree fun name hname t htime => ?_⟩
  obtain ⟨text, htext, -⟩ := Record.exists_type (hagree.form_eq.trans h.form)
  rw [List.mem_singleton.1 hname, htext] at htime
  cases htime

/-- The time of its last transition can be set to the present. -/
theorem exists_fresh (h : record.Rereadable) (hnow : now.Readable) :
    ∃ fresh, (({} : Accessor).setLastTransitionTimeIfExists now).on record = (.ok (), fresh) ∧
      fresh.Rereadable := by
  have hkeeps : record.form.KeepsTimes {} := h.form ▸ RecordKind.keepsTimes_default (.inl rfl)
  have hhas := hkeeps.hasField "lastTransitionTime" (by decide)
  obtain ⟨fresh, hfresh⟩ : ∃ fresh,
      (({} : Accessor).setLastTransitionTimeIfExists now).on record = (.ok (), fresh) :=
    Edit.exists_assignIfExists_time hhas (hkeeps.takes _ (by decide) now)
  obtain ⟨hagree, hstored⟩ := Edit.assignIfExists_time hfresh
  refine ⟨fresh, hfresh, h.of_agreeOff hagree fun name hname t htime => ?_⟩
  rw [if_pos hhas, h.form] at hstored
  have hfield := Record.field?_eq_of_stored? (hagree.form_eq.trans h.form) hstored
  rw [List.mem_singleton.1 hname, hfield] at htime
  cases htime
  exact hnow

/-- A new condition of a deployment is of its type and says it. -/
theorem exists_start (verdict : Verdict) (type : String) (hnow : now.Readable) :
    ∃ record, (({} : Accessor).startBetween now now type verdict.updates).on
        (.blank (.typed .deployment) now) = (.ok (), record) ∧
      record.Rereadable ∧ verdict.Told record ∧ ({} : Accessor).type record = .ok type := by
  obtain ⟨named, hnamed, hnamedOk⟩ := exists_named type (Record.rereadable_blank now)
  obtain ⟨fresh, hfresh, hfreshOk⟩ := exists_fresh hnamedOk hnow
  obtain ⟨record, hupdate⟩ := verdict.exists_update now hfreshOk.form
  have hmarked := marked_of_update hfreshOk.form hupdate
  have hstart : (({} : Accessor).startBetween now now type verdict.updates).on
      (.blank (.typed .deployment) now) = (.ok (), record) :=
    Attempt.on_bind_eq_ok.2 ⟨(), named, hnamed,
      Attempt.on_bind_eq_ok.2 ⟨(), fresh, hfresh, hupdate⟩⟩
  exact ⟨record, hstart, hmarked.rereadable hfreshOk hnow, hmarked.told,
    Accessor.type_startBetween (by decide) (by decide) hstart⟩

/-- The types of all conditions can be read, so that one is found or there is none. -/
theorem exists_findIndex (hall : ∀ record ∈ conditions, record.Rereadable) (type : String) :
    ∃ found, ({} : Accessor).findIndex conditions type = .ok found := by
  unfold Accessor.findIndex
  generalize 0 = start
  induction conditions generalizing start with
  | nil => exact ⟨none, rfl⟩
  | cons record rest ih =>
      obtain ⟨hrecord, hrest⟩ := List.forall_mem_cons.1 hall
      obtain ⟨own, -, hown⟩ := Record.exists_type hrecord.form
      obtain ⟨found, hfound⟩ := ih hrest (start + 1)
      rw [Accessor.findIndexFrom, hown]
      by_cases hsame : own = type
      · exact ⟨some start, if_pos hsame⟩
      · exact ⟨found, (if_neg hsame).trans hfound⟩

/-- Where a condition is found shows in what is written of the list. -/
theorem findIndex_eq_of_toJson_eq (hall : ∀ record ∈ conditions, record.Rereadable)
    (hothers : ∀ record ∈ others, record.Rereadable)
    (hsame : others.map Record.toJson = conditions.map Record.toJson) (type : String) :
    ({} : Accessor).findIndex others type = ({} : Accessor).findIndex conditions type := by
  unfold Accessor.findIndex
  generalize 0 = start
  induction conditions generalizing others start with
  | nil =>
      rw [List.map_nil, List.map_eq_nil_iff] at hsame
      rw [hsame]
  | cons record rest ih =>
      cases others with
      | nil => cases hsame
      | cons other tail =>
          obtain ⟨hfirst, htail⟩ := List.cons_eq_cons.1 hsame
          obtain ⟨hrecord, hrest⟩ := List.forall_mem_cons.1 hall
          obtain ⟨hother, htailOk⟩ := List.forall_mem_cons.1 hothers
          rw [Accessor.findIndexFrom, Accessor.findIndexFrom,
            Record.type_eq_of_toJson_eq hrecord.form hother.form hfirst, ih hrest htailOk htail]

/-- The first condition of the type says it, and all conditions can be read again. -/
structure Heads (verdict : Verdict) (type : String) (conditions : List Record) (position : Nat) :
    Prop where
  all : ∀ record ∈ conditions, record.Rereadable
  first : ({} : Accessor).findIndex conditions type = .ok (some position)
  told : ∀ record ∈ conditions[position]?, verdict.Told record

/-- A condition that is found is updated in its place. -/
theorem updateList_of_found (verdict : Verdict)
    (hall : ∀ record ∈ conditions, record.Rereadable) (hnow : now.Readable)
    (hfind : ({} : Accessor).findIndex conditions type = .ok (some position)) :
    ∃ before after, conditions[position]? = some before ∧ Marked now verdict before after ∧
      ({} : Accessor).updateList now (.typed .deployment) type verdict.updates conditions =
        (.ok (), conditions.set position after) ∧
      verdict.Heads type (conditions.set position after) position := by
  obtain ⟨front, before, back, rfl, hposition, hfront, htype⟩ :=
    Accessor.findIndexFrom_eq_some_iff.1 hfind
  rw [Nat.zero_add] at hposition
  subst hposition
  have hget : (front ++ before :: back)[front.length]? = some before := by simp
  have hset : ∀ after,
      (front ++ before :: back).set front.length after = front ++ after :: back := by
    simp
  have hbefore := hall before (by simp)
  obtain ⟨after, hupdate⟩ := verdict.exists_update now hbefore.form
  have hmarked := marked_of_update hbefore.form hupdate
  have hafterType : ({} : Accessor).type after = .ok type := by
    have hsame := @Accessor.type_update {} (by decide) now verdict.updates before
    rw [hupdate] at hsame
    exact hsame.trans htype
  refine ⟨before, after, hget, hmarked, ?_, ?_⟩
  · rw [Accessor.updateList, Accessor.updateListBetween, hfind]
    simp only [Accessor.updateAt, hget, hupdate]
  · rw [hset]
    constructor
    · intro record hrecord
      rcases List.mem_append.1 hrecord with hfirst | hlast
      · exact hall record (List.mem_append_left _ hfirst)
      · rcases List.mem_cons.1 hlast with rfl | hback
        · exact hmarked.rereadable hbefore hnow
        · exact hall record (List.mem_append_right _ (List.mem_cons_of_mem _ hback))
    · exact Accessor.findIndexFrom_eq_some_iff.2
        ⟨front, after, back, rfl, (Nat.zero_add _).symm, hfront, hafterType⟩
    · intro record hrecord
      obtain rfl : after = record := by simpa using hrecord
      exact hmarked.told

/-- A condition that is missing is appended. -/
theorem updateList_of_absent (verdict : Verdict)
    (hall : ∀ record ∈ conditions, record.Rereadable) (hnow : now.Readable)
    (hfind : ({} : Accessor).findIndex conditions type = .ok none) :
    ∃ record,
      ({} : Accessor).updateList now (.typed .deployment) type verdict.updates conditions =
        (.ok (), conditions ++ [record]) ∧
      verdict.Heads type (conditions ++ [record]) conditions.length := by
  obtain ⟨record, hstart, hrecord, htold, htype⟩ := verdict.exists_start type hnow
  have hlacks := Accessor.findIndexFrom_eq_none_iff.1 hfind
  refine ⟨record, ?_, ?_⟩
  · rw [Accessor.updateList, Accessor.updateListBetween, hfind]
    simp only [hstart]
  · constructor
    · intro other hother
      rcases List.mem_append.1 hother with hold | hnew
      · exact hall other hold
      · rw [List.mem_singleton.1 hnew]
        exact hrecord
    · exact Accessor.findIndexFrom_eq_some_iff.2
        ⟨conditions, record, [], rfl, (Nat.zero_add _).symm, hlacks, htype⟩
    · intro other hother
      obtain rfl : record = other := by simpa using hother
      exact htold

/-- Whatever the list, it says it afterwards. -/
theorem exists_updateList (verdict : Verdict) (type : String)
    (hall : ∀ record ∈ conditions, record.Rereadable) (hnow : now.Readable) :
    ∃ after position,
      ({} : Accessor).updateList now (.typed .deployment) type verdict.updates conditions =
        (.ok (), after) ∧
      verdict.Heads type after position := by
  obtain ⟨found, hfind⟩ := exists_findIndex hall type
  cases found with
  | none =>
      obtain ⟨record, hupdate, hheads⟩ := verdict.updateList_of_absent hall hnow hfind
      exact ⟨_, _, hupdate, hheads⟩
  | some position =>
      obtain ⟨before, after, -, -, hupdate, hheads⟩ :=
        verdict.updateList_of_found hall hnow hfind
      exact ⟨_, _, hupdate, hheads⟩

/-- Lists that are written the same say the same. -/
theorem Heads.of_toJson_eq (h : verdict.Heads type conditions position)
    (hothers : ∀ record ∈ others, record.Rereadable)
    (hsame : others.map Record.toJson = conditions.map Record.toJson) :
    verdict.Heads type others position where
  all := hothers
  first := (findIndex_eq_of_toJson_eq h.all hothers hsame type).trans h.first
  told other hother := by
    have hposition := congrArg (·[position]?) hsame
    simp only [List.getElem?_map] at hposition
    rw [show others[position]? = some other from hother, Option.map_some] at hposition
    obtain ⟨record, hrecord, hwritten⟩ := Option.map_eq_some_iff.1 hposition.symm
    exact (h.told record hrecord).of_toJson_eq (h.all record (List.mem_of_getElem? hrecord)).form
      (hothers other (List.mem_of_getElem? hother)).form hwritten.symm

/-- Saying it again moves one time of one condition. -/
theorem Heads.updateList (h : verdict.Heads type conditions position) (hnow : now.Readable) :
    ∃ before after, conditions[position]? = some before ∧
      Json.Writes "lastUpdateTime" (.str (Rfc3339.write 0 now)) before.toJson after.toJson ∧
      ({} : Accessor).updateList now (.typed .deployment) type verdict.updates conditions =
        (.ok (), conditions.set position after) ∧
      verdict.Heads type (conditions.set position after) position := by
  obtain ⟨before, after, hbefore, hmarked, hupdate, hheads⟩ :=
    verdict.updateList_of_found h.all hnow h.first
  have hform := (h.all before (List.mem_of_getElem? hbefore)).form
  exact ⟨before, after, hbefore, hmarked.writes_toJson hform (h.told before hbefore), hupdate,
    hheads⟩

end Verdict

end Reconciler.Condition
