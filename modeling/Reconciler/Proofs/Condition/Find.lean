import Reconciler.Condition.List
/-!
Finding a condition by its type.  The conditions are looked at up to the first one that has the
type or whose type cannot be read; those before it have other types, and none behind it matters.
What an update of a list comes to follows from where the search ended.
-/
namespace Reconciler.Condition.Accessor

variable {accessor : Accessor} {type : String}

/-- Conditions whose types can be read and are other ones. -/
def Lacks (accessor : Accessor) (type : String) (conditions : List Record) : Prop :=
  ∀ record ∈ conditions, ∃ found, accessor.type record = .ok found ∧ found ≠ type

theorem lacks_nil : accessor.Lacks type [] :=
  fun _ hmem => absurd hmem List.not_mem_nil

theorem lacks_cons_iff {record : Record} {rest : List Record} :
    accessor.Lacks type (record :: rest) ↔
      (∃ found, accessor.type record = .ok found ∧ found ≠ type) ∧ accessor.Lacks type rest :=
  List.forall_mem_cons

theorem Lacks.ne {conditions : List Record} (h : accessor.Lacks type conditions) {record : Record}
    (hmem : record ∈ conditions) : accessor.type record ≠ .ok type := by
  obtain ⟨found, hfound, hne⟩ := h record hmem
  rw [hfound]
  exact fun hsame => hne (Except.ok.inj hsame)

theorem findIndexFrom_eq_none_iff {start : Nat} {conditions : List Record} :
    accessor.findIndexFrom start type conditions = .ok none ↔ accessor.Lacks type conditions := by
  induction conditions generalizing start with
  | nil => exact iff_of_true rfl lacks_nil
  | cons record rest ih =>
      rw [findIndexFrom, lacks_cons_iff]
      cases hread : accessor.type record with
      | error error => simp
      | ok found =>
          by_cases hsame : found = type
          · simp [hsame]
          · simp [hsame, ih]

/-- The conditions split at the one that is found. -/
theorem findIndexFrom_eq_some_iff {start position : Nat} {conditions : List Record} :
    accessor.findIndexFrom start type conditions = .ok (some position) ↔
      ∃ front record back, conditions = front ++ record :: back ∧
        position = start + front.length ∧ accessor.Lacks type front ∧
        accessor.type record = .ok type := by
  induction conditions generalizing start with
  | nil => simp [findIndexFrom]
  | cons first rest ih =>
      rw [findIndexFrom]
      constructor
      · intro hfind
        cases hread : accessor.type first with
        | error error => simp [hread] at hfind
        | ok found =>
            simp only [hread] at hfind
            by_cases hsame : found = type
            · rw [if_pos hsame, Except.ok.injEq, Option.some.injEq] at hfind
              subst hsame
              exact ⟨[], first, rest, rfl, by simp [hfind], lacks_nil, hread⟩
            · rw [if_neg hsame, ih] at hfind
              obtain ⟨front, record, back, rfl, rfl, hfront, hrecord⟩ := hfind
              refine ⟨first :: front, record, back, rfl, ?_, ?_, hrecord⟩
              · rw [List.length_cons]
                omega
              · exact lacks_cons_iff.2 ⟨⟨found, hread, hsame⟩, hfront⟩
      · rintro ⟨front, record, back, hsplit, rfl, hfront, hrecord⟩
        cases front with
        | nil =>
            obtain ⟨rfl, rfl⟩ := List.cons_eq_cons.1 hsplit
            simp [hrecord]
        | cons before front =>
            obtain ⟨rfl, rfl⟩ := List.cons_eq_cons.1 hsplit
            obtain ⟨⟨found, hread, hne⟩, hfront⟩ := lacks_cons_iff.1 hfront
            simp only [hread, if_neg hne]
            refine ih.2 ⟨front, record, back, rfl, ?_, hfront, hrecord⟩
            rw [List.length_cons]
            omega

/-- The conditions split at the first one whose type cannot be read. -/
theorem findIndexFrom_eq_error_iff {start : Nat} {conditions : List Record} {error : AccessError} :
    accessor.findIndexFrom start type conditions = .error error ↔
      ∃ front record back source, conditions = front ++ record :: back ∧
        error = .index (start + front.length) source ∧ accessor.Lacks type front ∧
        accessor.type record = .error source := by
  induction conditions generalizing start with
  | nil => simp [findIndexFrom]
  | cons first rest ih =>
      rw [findIndexFrom]
      constructor
      · intro hfind
        cases hread : accessor.type first with
        | error source =>
            simp only [hread, Except.error.injEq] at hfind
            exact ⟨[], first, rest, source, rfl, hfind.symm, lacks_nil, hread⟩
        | ok found =>
            simp only [hread] at hfind
            by_cases hsame : found = type
            · rw [if_pos hsame] at hfind
              cases hfind
            · rw [if_neg hsame, ih] at hfind
              obtain ⟨front, record, back, source, rfl, rfl, hfront, hrecord⟩ := hfind
              refine ⟨first :: front, record, back, source, rfl, ?_, ?_, hrecord⟩
              · rw [List.length_cons, Nat.add_right_comm, Nat.add_assoc]
              · exact lacks_cons_iff.2 ⟨⟨found, hread, hsame⟩, hfront⟩
      · rintro ⟨front, record, back, source, hsplit, rfl, hfront, hrecord⟩
        cases front with
        | nil =>
            obtain ⟨rfl, rfl⟩ := List.cons_eq_cons.1 hsplit
            simp [hrecord]
        | cons before front =>
            obtain ⟨rfl, rfl⟩ := List.cons_eq_cons.1 hsplit
            obtain ⟨⟨found, hread, hne⟩, hfront⟩ := lacks_cons_iff.1 hfront
            simp only [hread, if_neg hne]
            refine ih.2 ⟨front, record, back, source, rfl, ?_, hfront, hrecord⟩
            rw [List.length_cons, Nat.add_right_comm, Nat.add_assoc]

/-- The search gets as far as a position, where a type is read with a result: before it stand
conditions of other types. -/
def Reaches (accessor : Accessor) (type : String) (conditions : List Record) (position : Nat)
    (result : Except AccessError String) : Prop :=
  accessor.Lacks type (conditions.take position) ∧
    ∃ record, conditions[position]? = some record ∧ accessor.type record = result

/-- A list divided in front of a condition is divided at the position of that condition. -/
theorem reaches_iff {conditions : List Record} {position : Nat}
    {result : Except AccessError String} :
    accessor.Reaches type conditions position result ↔
      ∃ front record back, conditions = front ++ record :: back ∧ position = front.length ∧
        accessor.Lacks type front ∧ accessor.type record = result := by
  constructor
  · rintro ⟨hlacks, record, hrecord, hread⟩
    obtain ⟨hlt, hget⟩ := List.getElem?_eq_some_iff.1 hrecord
    refine ⟨conditions.take position, record, conditions.drop (position + 1), ?_, ?_, hlacks, hread⟩
    · rw [← hget, List.getElem_cons_drop, List.take_append_drop]
    · rw [List.length_take, Nat.min_eq_left (Nat.le_of_lt hlt)]
  · rintro ⟨front, record, back, rfl, rfl, hlacks, hread⟩
    refine ⟨?_, record, ?_, hread⟩
    · rwa [List.take_left']
      rfl
    · simp

theorem findIndex_eq_some_iff {conditions : List Record} {position : Nat} :
    accessor.findIndex conditions type = .ok (some position) ↔
      accessor.Reaches type conditions position (.ok type) := by
  rw [findIndex, findIndexFrom_eq_some_iff, reaches_iff]
  simp only [Nat.zero_add]

theorem findIndex_eq_none_iff {conditions : List Record} :
    accessor.findIndex conditions type = .ok none ↔ accessor.Lacks type conditions :=
  findIndexFrom_eq_none_iff

theorem findIndex_eq_error_iff {conditions : List Record} {error : AccessError} :
    accessor.findIndex conditions type = .error error ↔
      ∃ position source, error = .index position source ∧
        accessor.Reaches type conditions position (.error source) := by
  simp only [findIndex, findIndexFrom_eq_error_iff, reaches_iff, Nat.zero_add]
  constructor
  · rintro ⟨front, record, back, source, hsplit, rfl, hlacks, hread⟩
    exact ⟨front.length, source, rfl, front, record, back, hsplit, rfl, hlacks, hread⟩
  · rintro ⟨position, source, rfl, front, record, back, hsplit, rfl, hlacks, hread⟩
    exact ⟨front, record, back, source, hsplit, rfl, hlacks, hread⟩

/-- What there is to answer about the first condition of a type once its position is known: the
condition, a copy of it over a target, and its status. -/
def Answers (accessor : Accessor) (type : String) (conditions : List Record) :
    Except AccessError (Option Nat) → Prop
  | .ok (some position) => ∃ record, conditions[position]? = some record ∧
      accessor.find conditions type = .ok (some record) ∧
      (∀ target, accessor.findInto conditions type target = (.ok true, record)) ∧
      accessor.findStatus conditions type = accessor.status record
  | .ok none => accessor.find conditions type = .ok none ∧
      (∀ target, accessor.findInto conditions type target = (.ok false, target)) ∧
      accessor.findStatus conditions type = .ok .unknown
  | .error error => accessor.find conditions type = .error error ∧
      (∀ target, accessor.findInto conditions type target = (.error error, target)) ∧
      accessor.findStatus conditions type = .error error

/-- A position that is found is one of the list, so that there is a condition to answer with. -/
theorem answers_findIndex (accessor : Accessor) (conditions : List Record) (type : String) :
    accessor.Answers type conditions (accessor.findIndex conditions type) := by
  rcases hindex : accessor.findIndex conditions type with error | _ | position
  · have hfind : accessor.find conditions type = .error error := by rw [find, hindex]; rfl
    refine ⟨hfind, fun target => ?_, ?_⟩
    · rw [findInto, hfind]
    · rw [findStatus, hfind]
      rfl
  · have hfind : accessor.find conditions type = .ok none := by rw [find, hindex]; rfl
    refine ⟨hfind, fun target => ?_, ?_⟩
    · rw [findInto, hfind]
    · rw [findStatus, hfind]
      rfl
  · obtain ⟨-, record, hrecord, -⟩ := findIndex_eq_some_iff.1 hindex
    have hfind : accessor.find conditions type = .ok (some record) := by
      rw [find, hindex, ← hrecord]
      rfl
    refine ⟨record, hrecord, hfind, fun target => ?_, ?_⟩
    · rw [findInto, hfind]
    · rw [findStatus, hfind]
      rfl

/-- A search ends at the first condition of the type, at the first whose type cannot be read, or
after all conditions if it meets neither; whatever is asked about the condition of a type follows
from where the search ended. -/
theorem search_ends (accessor : Accessor) (conditions : List Record) (type : String) :
    (∀ position, accessor.findIndex conditions type = .ok (some position) ↔
      accessor.Reaches type conditions position (.ok type)) ∧
    (accessor.findIndex conditions type = .ok none ↔ accessor.Lacks type conditions) ∧
    (∀ error, accessor.findIndex conditions type = .error error ↔
      ∃ position source, error = .index position source ∧
        accessor.Reaches type conditions position (.error source)) ∧
    accessor.Answers type conditions (accessor.findIndex conditions type) :=
  ⟨fun _ => findIndex_eq_some_iff, findIndex_eq_none_iff, fun _ => findIndex_eq_error_iff,
    answers_findIndex accessor conditions type⟩

/-- What an update of a list comes to: a type cannot be read, the first condition of the type is
updated in its place, or there is none, and a new one is appended unless it fails. -/
inductive Updates (accessor : Accessor) (begun ended : Instant) (kind : RecordKind) (type : String)
    (updates : List Update) (conditions : List Record) :
    Except AccessError Unit × List Record → Prop where
  | unreadable (error : AccessError) :
      Updates accessor begun ended kind type updates conditions (.error error, conditions)
  | found {position : Nat} {record changed : Record} {result : Except AccessError Unit}
      (hrecord : conditions[position]? = some record) (htype : accessor.type record = .ok type)
      (hupdate : (accessor.update ended updates).on record = (result, changed)) :
      Updates accessor begun ended kind type updates conditions
        (result, conditions.set position changed)
  | refused (error : AccessError) (hlacks : accessor.Lacks type conditions) :
      Updates accessor begun ended kind type updates conditions (.error error, conditions)
  | appended {record : Record} (hlacks : accessor.Lacks type conditions)
      (hstart : (accessor.startBetween begun ended type updates).on (.blank kind begun) =
        (.ok (), record)) :
      Updates accessor begun ended kind type updates conditions (.ok (), conditions ++ [record])

theorem updates_updateListBetween (accessor : Accessor) (begun ended : Instant) (kind : RecordKind)
    (type : String) (updates : List Update) (conditions : List Record) :
    accessor.Updates begun ended kind type updates conditions
      (accessor.updateListBetween begun ended kind type updates conditions) := by
  unfold updateListBetween
  rcases hindex : accessor.findIndex conditions type with error | _ | position
  · exact .unreadable error
  · have hlacks := findIndex_eq_none_iff.1 hindex
    rcases hstart : (accessor.startBetween begun ended type updates).on (.blank kind begun) with
      ⟨error | _, record⟩
    · exact .refused error hlacks
    · exact .appended hlacks hstart
  · obtain ⟨-, record, hrecord, htype⟩ := findIndex_eq_some_iff.1 hindex
    simp only [updateAt, hrecord]
    exact .found hrecord htype rfl

end Reconciler.Condition.Accessor
