import Mathlib.Logic.ExistsUnique
import Reconciler.Proofs.Condition.Find
import Reconciler.Proofs.Condition.Frame
/-!
Lists of conditions are keyed by type.  No update reaches the type of a condition, and a new
condition is appended under a type that the list lacks; so the types that lists start out with, none
at all, stay different from each other.
-/
namespace Reconciler.Condition

namespace Record

/-- Whether a record of a form holds times under a name. -/
def Form.holdsTime (name : String) : Form → Bool
  | .typed type =>
    type.fields.lookup name = some .time || type.fields.lookup name = some .optionalTime
  | _ => false

/-- A text that was stored is read again, but for a time that was read from it. -/
theorem read_of_store?_string {record : Record} {field text : String} {stored : FieldValue ⊕ Json}
    (htime : record.form.holdsTime field = false)
    (hstore : record.form.store? field (.string text) = some stored)
    (hstored : record.stored? field = some stored) :
    (record.read field .optionalString).map FieldValue.text = .ok text := by
  have hread : record.read field .optionalString = .ok (.string text) := by
    rw [read_eq_ok_iff, field?_eq_reads, hstored]
    cases hform : record.form with
    | typed type =>
        rw [hform] at htime hstore
        obtain ⟨taken, htaken, rfl⟩ := Option.map_eq_some_iff.1 hstore
        obtain ⟨fieldType, hlookup, htake⟩ := Option.bind_eq_some_iff.1 htaken
        cases fieldType with
        | string | optionalString =>
            cases htake
            exact ⟨.string text, rfl, rfl⟩
        | time | optionalTime => simp [Form.holdsTime, hlookup] at htime
        | optionalInt => cases htake
    | map | object =>
        rw [hform] at hstore
        cases hstore
        exact ⟨.string text, rfl, rfl⟩
    | bare value =>
        rw [stored?_of_form_eq_bare hform] at hstored
        cases hstored
  rw [hread]
  rfl

end Record

/-- The form of the records of a kind that are new. -/
def RecordKind.form : RecordKind → Record.Form
  | .typed type => .typed type
  | .map => .map
  | .json => .object

theorem RecordKind.form_blank (kind : RecordKind) (now : Instant) :
    (Record.blank kind now).form = kind.form := by
  cases kind <;> rfl

namespace Accessor

variable {accessor : Accessor} {kind : RecordKind} {type : String} {begun ended : Instant}
  {updates : List Update}

/-- An update leaves the type of a condition alone, whether it succeeds or not. -/
theorem type_update (hnames : accessor.names.Distinct) (now : Instant) (updates : List Update)
    (record : Record) :
    accessor.type ((accessor.update now updates).on record).2 = accessor.type record := by
  have hagree := accessor.touches_update now updates record
  rw [Accessor.type, Accessor.type, hagree.read_eq hnames.type_not_mem]

/-- A new condition has the type that it was made for. -/
theorem type_startBetween {record : Record} (hnames : accessor.names.Distinct)
    (htime : kind.form.holdsTime accessor.names.type = false)
    (hstart : (accessor.startBetween begun ended type updates).on (.blank kind begun) =
      (.ok (), record)) :
    accessor.type record = .ok type := by
  obtain ⟨_, named, hname, hstart⟩ := Attempt.on_bind_eq_ok.1 hstart
  obtain ⟨_, stamped, hstamp, hupdate⟩ := Attempt.on_bind_eq_ok.1 hstart
  have hnamed : accessor.type named = .ok type := by
    have hset := Edit.setField_of_assign hname
    obtain ⟨stored, hstore, hstored⟩ := Record.setField_stored hset
    have hform : named.form = kind.form :=
      (Record.setField_agreeOff hset).form_eq.trans (kind.form_blank begun)
    rw [kind.form_blank, ← hform] at hstore
    rw [← hform] at htime
    exact Record.read_of_store?_string htime hstore hstored
  have hstamped : accessor.type stamped = accessor.type named := by
    have htouches : (accessor.setLastTransitionTimeIfExists begun).Touches accessor.names.times :=
      Edit.touches_assignIfExists (by simp [FieldNames.times]) _
    have hagree := htouches.agreeOff hstamp
    rw [Accessor.type, Accessor.type, hagree.read_eq]
    exact fun hmem => hnames.type_not_mem (List.mem_append_right _ hmem)
  have hupdated := type_update hnames ended updates stamped
  rw [hupdate] at hupdated
  exact hupdated.trans (hstamped.trans hnamed)

/-- All types of the conditions can be read and are different from each other. -/
def Keyed (accessor : Accessor) (conditions : List Record) : Prop :=
  ∃ types : List String, types.Nodup ∧ conditions.map accessor.type = types.map .ok

theorem keyed_nil : accessor.Keyed [] :=
  ⟨[], List.nodup_nil, rfl⟩

theorem Keyed.of_map_eq {before after : List Record} (h : accessor.Keyed before)
    (hmap : after.map accessor.type = before.map accessor.type) : accessor.Keyed after := by
  obtain ⟨types, hnodup, htypes⟩ := h
  exact ⟨types, hnodup, hmap.trans htypes⟩

theorem Keyed.append {conditions : List Record} {new : Record} (h : accessor.Keyed conditions)
    (hlacks : accessor.Lacks type conditions) (hnew : accessor.type new = .ok type) :
    accessor.Keyed (conditions ++ [new]) := by
  obtain ⟨types, hnodup, htypes⟩ := h
  have hfresh : type ∉ types := by
    intro hmem
    have hread : Except.ok type ∈ conditions.map accessor.type := by
      rw [htypes]
      exact List.mem_map_of_mem hmem
    obtain ⟨record, hrecord, hread⟩ := List.mem_map.1 hread
    exact hlacks.ne hrecord hread
  refine ⟨types ++ [type], ?_, by simp [htypes, hnew]⟩
  rw [List.nodup_append]
  refine ⟨hnodup, by simp, ?_⟩
  intro found hmem other hother
  rw [List.mem_singleton.1 hother]
  rintro rfl
  exact hfresh hmem

/-- In a keyed list a type determines the position. -/
theorem Keyed.position_eq {conditions : List Record} (h : accessor.Keyed conditions)
    {first second : Nat} {left right : Record} (hleft : conditions[first]? = some left)
    (hright : conditions[second]? = some right) (hfirst : accessor.type left = .ok type)
    (hsecond : accessor.type right = .ok type) : first = second := by
  obtain ⟨types, hnodup, htypes⟩ := h
  have hread : ∀ (position : Nat) (record : Record), conditions[position]? = some record →
      accessor.type record = .ok type → types[position]? = some type := by
    intro position record hrecord htype
    have hmap := congrArg (·[position]?) htypes
    simpa [hrecord, htype] using hmap.symm
  have hfirst := hread first left hleft hfirst
  have hsecond := hread second right hright hsecond
  obtain ⟨hlt, hget⟩ := List.getElem?_eq_some_iff.1 hfirst
  exact (List.getElem?_inj hlt hnodup).1 (hfirst.trans hsecond.symm)

/-- No condition has the type. -/
def Absent (accessor : Accessor) (type : String) (conditions : List Record) : Prop :=
  ∀ record ∈ conditions, accessor.type record ≠ .ok type

/-- What a call for a type that succeeds makes of a list. -/
structure Succeeds (accessor : Accessor) (type : String) (before after : List Record) : Prop where
  one : ∃! position : Nat, ∃ record,
    after[position]? = some record ∧ accessor.type record = .ok type
  /-- No condition changes its type or its place. -/
  types : before.map accessor.type <+: after.map accessor.type
  others : ∀ (position : Nat) (record : Record), before[position]? = some record →
    accessor.type record ≠ .ok type → after[position]? = some record
  appends : accessor.Absent type before →
    ∃ new, accessor.type new = .ok type ∧ after = before ++ [new]
  stays : ¬ accessor.Absent type before → after.length = before.length

/-- What a call for a type that fails leaves of a list. -/
structure Fails (accessor : Accessor) (type : String) (before after : List Record) : Prop where
  types : after.map accessor.type = before.map accessor.type
  others : ∀ (position : Nat) (record : Record), before[position]? = some record →
    accessor.type record ≠ .ok type → after[position]? = some record
  unchanged : accessor.Absent type before → after = before

/-- What a call for a type does to a list, by its result. -/
def Obeys (accessor : Accessor) (type : String) (before : List Record)
    (outcome : Except AccessError Unit × List Record) : Prop :=
  match outcome with
  | (.ok (), after) => accessor.Succeeds type before after
  | (.error _, after) => accessor.Fails type before after

theorem Lacks.absent {conditions : List Record} (h : accessor.Lacks type conditions) :
    accessor.Absent type conditions :=
  fun _ hmem => h.ne hmem

theorem Fails.refl (conditions : List Record) : accessor.Fails type conditions conditions :=
  ⟨rfl, fun _ _ hrecord _ => hrecord, fun _ => rfl⟩

theorem Fails.keyed {before after : List Record} (h : accessor.Fails type before after)
    (hkeyed : accessor.Keyed before) : accessor.Keyed after :=
  hkeyed.of_map_eq h.types

/-- The condition of a type is replaced by one of the same type. -/
theorem fails_set {conditions : List Record} {position : Nat} {record changed : Record}
    (hrecord : conditions[position]? = some record) (htype : accessor.type record = .ok type)
    (hchanged : accessor.type changed = accessor.type record) :
    accessor.Fails type conditions (conditions.set position changed) where
  types := by
    refine List.ext_getElem? fun other => ?_
    by_cases hsame : position = other
    · subst hsame
      obtain ⟨hlt, -⟩ := List.getElem?_eq_some_iff.1 hrecord
      rw [List.getElem?_map, List.getElem?_set_self hlt, List.getElem?_map, hrecord,
        Option.map_some, Option.map_some, hchanged]
    · rw [List.getElem?_map, List.getElem?_set_ne hsame, List.getElem?_map]
  others other found hfound hother := by
    rw [List.getElem?_set_ne]
    · exact hfound
    · rintro rfl
      rw [hrecord] at hfound
      cases hfound
      exact hother htype
  unchanged habsent := absurd htype (habsent record (List.mem_of_getElem? hrecord))

/-- A keyed list with the type in place has it once. -/
theorem Fails.succeeds {before after : List Record} (h : accessor.Fails type before after)
    (hkeyed : accessor.Keyed before) (hpresent : ¬ accessor.Absent type before) :
    accessor.Succeeds type before after where
  one := by
    simp only [Absent, Classical.not_forall, Classical.not_not] at hpresent
    obtain ⟨record, hmem, hrecord⟩ := hpresent
    obtain ⟨position, hposition⟩ := List.mem_iff_getElem?.1 hmem
    have hread := congrArg (·[position]?) h.types
    simp only [List.getElem?_map, hposition, Option.map_some] at hread
    obtain ⟨changed, hchanged, htype⟩ := Option.map_eq_some_iff.1 hread
    refine ⟨position, ⟨changed, hchanged, htype.trans hrecord⟩, ?_⟩
    rintro other ⟨found, hfound, hsame⟩
    exact (h.keyed hkeyed).position_eq hfound hchanged hsame (htype.trans hrecord)
  types := ⟨[], by rw [List.append_nil, h.types]⟩
  others := h.others
  appends habsent := absurd habsent hpresent
  stays _ := by simpa using congrArg List.length h.types

theorem succeeds_append {conditions : List Record} {new : Record}
    (hkeyed : accessor.Keyed conditions) (hlacks : accessor.Lacks type conditions)
    (hnew : accessor.type new = .ok type) :
    accessor.Succeeds type conditions (conditions ++ [new]) where
  one := by
    refine ⟨conditions.length, ⟨new, by simp, hnew⟩, ?_⟩
    rintro other ⟨found, hfound, hsame⟩
    exact (hkeyed.append hlacks hnew).position_eq hfound (by simp) hsame hnew
  types := by simp
  others position record hrecord _ := by
    obtain ⟨hlt, -⟩ := List.getElem?_eq_some_iff.1 hrecord
    rw [List.getElem?_append_left hlt]
    exact hrecord
  appends _ := ⟨new, hnew, rfl⟩
  stays hpresent := absurd hlacks.absent hpresent

/-- One call on a keyed list: it does what its result says, and the list stays keyed. -/
theorem updateListBetween_obeys {conditions : List Record} (hnames : accessor.names.Distinct)
    (htime : kind.form.holdsTime accessor.names.type = false) (hkeyed : accessor.Keyed conditions)
    (begun ended : Instant) (type : String) (updates : List Update) :
    accessor.Keyed (accessor.updateListBetween begun ended kind type updates conditions).2 ∧
      accessor.Obeys type conditions
        (accessor.updateListBetween begun ended kind type updates conditions) := by
  have hcall := updates_updateListBetween accessor begun ended kind type updates conditions
  generalize accessor.updateListBetween begun ended kind type updates conditions = outcome
    at hcall ⊢
  cases hcall with
  | unreadable error => exact ⟨hkeyed, .refl conditions⟩
  | @found position record changed result hrecord htype hupdate =>
      have hchanged := type_update hnames ended updates record
      rw [hupdate] at hchanged
      have hfails := fails_set hrecord htype hchanged
      refine ⟨hfails.keyed hkeyed, ?_⟩
      cases result with
      | error error => exact hfails
      | ok _ =>
          refine hfails.succeeds hkeyed fun habsent => ?_
          exact habsent record (List.mem_of_getElem? hrecord) htype
  | refused error => exact ⟨hkeyed, .refl conditions⟩
  | appended hlacks hstart =>
      have hnew := type_startBetween hnames htime hstart
      exact ⟨hkeyed.append hlacks hnew, succeeds_append hkeyed hlacks hnew⟩

/-- The lists that calls can lead to from an unset or an empty one, each begun and ended at times of
its own. -/
inductive Reachable (accessor : Accessor) (kind : RecordKind) : Option (List Record) → Prop where
  | unset : Reachable accessor kind none
  | empty : Reachable accessor kind (some [])
  | list {conditions : List Record} (begun ended : Instant) (type : String)
      (updates : List Update) : Reachable accessor kind (some conditions) →
      Reachable accessor kind
        (some (accessor.updateListBetween begun ended kind type updates conditions).2)
  | optionalList {conditions : Option (List Record)} (begun ended : Instant) (type : String)
      (updates : List Update) : Reachable accessor kind conditions →
      Reachable accessor kind
        (accessor.updateOptionalListBetween begun ended kind type updates conditions).2

theorem Reachable.keyed {conditions : Option (List Record)} (hnames : accessor.names.Distinct)
    (htime : kind.form.holdsTime accessor.names.type = false)
    (h : accessor.Reachable kind conditions) : accessor.Keyed (conditions.getD []) := by
  induction h with
  | unset => exact keyed_nil
  | empty => exact keyed_nil
  | list begun ended type updates _ ih =>
      exact (updateListBetween_obeys hnames htime ih begun ended type updates).1
  | optionalList begun ended type updates _ ih =>
      exact (updateListBetween_obeys hnames htime ih begun ended type updates).1

/-- Every list that calls lead to, an unset one read as empty, is keyed by type, and every further
call on it keeps all conditions but the one of its type, which there is exactly one of if the call
succeeds. -/
theorem reachable_obeys {conditions : Option (List Record)} (hnames : accessor.names.Distinct)
    (htime : kind.form.holdsTime accessor.names.type = false)
    (h : accessor.Reachable kind conditions) :
    accessor.Keyed (conditions.getD []) ∧
    ∀ (begun ended : Instant) (type : String) (updates : List Update),
      accessor.Obeys type (conditions.getD [])
        (accessor.updateListBetween begun ended kind type updates (conditions.getD [])) ∧
      ∃ after,
        (accessor.updateOptionalListBetween begun ended kind type updates conditions).2 =
          some after ∧
        accessor.Obeys type (conditions.getD [])
          ((accessor.updateOptionalListBetween begun ended kind type updates conditions).1,
            after) := by
  have hkeyed := h.keyed hnames htime
  refine ⟨hkeyed, fun begun ended type updates => ?_⟩
  have hobeys := (updateListBetween_obeys hnames htime hkeyed begun ended type updates).2
  exact ⟨hobeys, _, rfl, hobeys⟩

/-- A list with the one condition that a first call appended, one second after it began. -/
theorem reachable_obeys_ready :
    let ready : Record := .json (.obj [("lastTransitionTime", .str "1970-01-01T00:00:01Z"),
      ("lastUpdateTime", .str "1970-01-01T00:00:01Z"), ("status", .str "True"),
      ("type", .str "Ready")])
    Keyed {} [ready] ∧
      Obeys {} "Ready" [ready] (updateListBetween {} (.ofSeconds 60) (.ofSeconds 61) .json "Ready"
        [.status .false] [ready]) := by
  intro ready
  have hready : Reachable {} .json (some [ready]) :=
    .optionalList (.ofSeconds 0) (.ofSeconds 1) "Ready" [.status .true] .unset
  obtain ⟨hkeyed, hcalls⟩ := reachable_obeys (by decide) (by decide) hready
  exact ⟨hkeyed, (hcalls (.ofSeconds 60) (.ofSeconds 61) "Ready" [.status .false]).1⟩

end Accessor

end Reconciler.Condition
