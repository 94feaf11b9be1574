import Reconciler.Condition.Record
import Reconciler.Proofs.Json.RoundTrip
/-!
Typed conditions survive being written, with their times in whole seconds.
-/
namespace Reconciler.Condition

namespace FieldValue

/-- The times of a value. -/
def times (value : FieldValue) : List Instant :=
  value.instant?.toList

/-- A value with its time in whole seconds. -/
def truncate : FieldValue → FieldValue
  | .time instant => .time instant.truncate
  | value => value

/-- What is written of a value: nothing where it holds nothing. -/
def written? (value : FieldValue) : Option Json :=
  ((some value).filter (· ≠ .null)).map toJson

theorem isInt64_of_ofJson {json : Json} {value : Int} (hread : ofJson json = .int value) :
    isInt64 value = true := by
  cases json with
  | int number =>
      simp only [ofJson] at hread
      split at hread
      · rename_i hnumber
        cases hread
        exact hnumber
      · cases hread
  | _ => cases hread

end FieldValue

namespace FieldType

variable {type : FieldType} {value : FieldValue}

theorem holds_truncate (h : type.Holds value) : type.Holds value.truncate := by
  cases value with
  | time instant => cases type <;> first | rfl | cases h
  | _ => exact h

theorem isInt64_of_decode? {json : Option Json} {number : Int}
    (hread : type.decode? json = some (.int number)) : FieldValue.isInt64 number = true := by
  have htake : ∀ taken, type.take? taken = some (.int number) → taken = .int number := by
    intro taken htaken
    cases type <;> cases taken <;> simp [take?] at htaken ⊢
    exact htaken
  unfold decode? at hread
  split at hread
  · cases hread
  · cases htake _ hread
  · obtain ⟨_, -, hinstant⟩ := Option.map_eq_some_iff.1 hread
    cases hinstant
  · obtain ⟨_, -, hinstant⟩ := Option.map_eq_some_iff.1 hread
    cases hinstant
  · exact FieldValue.isInt64_of_ofJson (htake _ hread)

theorem type_of_holds_string {text : String} (hholds : type.Holds (.string text)) :
    type = .string ∨ type = .optionalString := by
  cases type <;> simp [Holds, take?] at hholds ⊢

/-- A field is read again from what is written of it. -/
theorem decode?_written {json : Option Json} (hread : type.decode? json = some value)
    (hcivil : ∀ t ∈ value.times, t.Civil) :
    type.decode? value.written? = some value.truncate := by
  have hholds := holds_of_decode? hread
  cases value with
  | null => cases type <;> first | rfl | cases hholds
  | string text =>
      rcases type_of_holds_string hholds with rfl | rfl <;> rfl
  | int number =>
      have hnumber : FieldValue.ofJson (.int number) = .int number :=
        if_pos (isInt64_of_decode? hread)
      cases type with
      | optionalInt =>
          change take? .optionalInt (.ofJson (.int number)) = some (.int number)
          rw [hnumber]
          rfl
      | _ => cases hholds
  | time instant =>
      have hparse : (Rfc3339.parseRelaxed? (Rfc3339.write 0 instant)).map FieldValue.time =
          some (.time instant.truncate) := by
        have hinstant := hcivil instant (by simp [FieldValue.times, FieldValue.instant?])
        rw [Rfc3339.readsParts_parseRelaxed?.read_write_zero hinstant]
        rfl
      cases type with
      | time | optionalTime => exact hparse
      | _ => cases hholds
  | other value => cases type <;> cases hholds

end FieldType

namespace Slots

/-- Slots with their times in whole seconds. -/
def truncate (slots : Slots) : Slots :=
  slots.map fun slot =>
    (slot.1, ⟨slot.2.type, slot.2.value.truncate, FieldType.holds_truncate slot.2.holds⟩)

theorem shape_truncate (slots : Slots) : slots.truncate.shape = slots.shape := by
  simp [truncate, shape, Function.comp_def]

theorem decode?_cons_eq_some_iff {json : Json} {field : String × FieldType}
    {rest : List (String × FieldType)} {slots : Slots} :
    decode? json (field :: rest) = some slots ↔
      ∃ slot tail, slots = (field.1, slot) :: tail ∧ slot.type = field.2 ∧
        field.2.decode? (json.field? field.1) = some slot.value ∧
        decode? json rest = some tail := by
  obtain ⟨name, type⟩ := field
  constructor
  · intro hread
    rw [decode?] at hread
    split at hread
    · cases hread
    · rename_i value hvalue
      obtain ⟨tail, htail, rfl⟩ := Option.map_eq_some_iff.1 hread
      exact ⟨⟨type, value, FieldType.holds_of_decode? hvalue⟩, tail, rfl, rfl, hvalue, htail⟩
  · rintro ⟨⟨slotType, value, hholds⟩, tail, rfl, rfl, hvalue, htail⟩
    rw [decode?]
    split
    · rename_i hnone
      rw [hvalue] at hnone
      cases hnone
    · rename_i found hfound
      obtain rfl : value = found := Option.some.inj (hvalue.symm.trans hfound)
      rw [htail]
      rfl

theorem get?_of_mem {slots : Slots} (hnames : (slots.map (·.1)).Nodup) {slot : String × Slot}
    (hmem : slot ∈ slots) : slots.get? slot.1 = some slot.2.value := by
  induction slots with
  | nil => cases hmem
  | cons first rest ih =>
      obtain ⟨hfirst, hrest⟩ := List.nodup_cons.1 hnames
      rcases List.mem_cons.1 hmem with rfl | hlater
      · exact if_pos rfl
      · have hne : first.1 ≠ slot.1 := by
          intro hsame
          exact hfirst (List.mem_map.2 ⟨slot, hlater, hsame.symm⟩)
        exact (if_neg hne).trans (ih hrest hlater)

/-- Slots are read again from an object that has what is written of each of them. -/
theorem decode?_written {json written : Json} {fields : List (String × FieldType)} {slots : Slots}
    (hread : decode? json fields = some slots)
    (hcivil : ∀ slot ∈ slots, ∀ t ∈ slot.2.value.times, t.Civil)
    (hfield : ∀ slot ∈ slots, written.field? slot.1 = slot.2.value.written?) :
    decode? written fields = some slots.truncate := by
  induction fields generalizing slots with
  | nil =>
      cases hread
      rfl
  | cons field rest ih =>
      obtain ⟨slot, tail, rfl, htype, hvalue, htail⟩ := decode?_cons_eq_some_iff.1 hread
      obtain ⟨hfirstCivil, hrestCivil⟩ := List.forall_mem_cons.1 hcivil
      obtain ⟨hfirstField, hrestField⟩ := List.forall_mem_cons.1 hfield
      refine decode?_cons_eq_some_iff.2 ⟨_, truncate tail, rfl, htype, ?_,
        ih htail hrestCivil hrestField⟩
      rw [hfirstField]
      exact FieldType.decode?_written hvalue hfirstCivil

end Slots

namespace TypedCondition

/-- The times of a condition. -/
def times (condition : TypedCondition) : List Instant :=
  condition.slots.flatMap fun slot => slot.2.value.times

/-- A condition with its times in whole seconds. -/
def truncate (condition : TypedCondition) : TypedCondition :=
  ⟨condition.type, condition.slots.truncate,
    (Slots.shape_truncate condition.slots).trans condition.conforms⟩

theorem decode?_eq_some_iff {type : ConditionType} {json : Json} {condition : TypedCondition} :
    decode? type json = some condition ↔
      json.isObject = true ∧ condition.type = type ∧
        Slots.decode? json type.fields = some condition.slots := by
  unfold decode?
  by_cases hobject : json.isObject
  · rw [if_pos hobject]
    split
    · rename_i slots hslots
      constructor
      · intro hcondition
        cases hcondition
        exact ⟨hobject, rfl, hslots⟩
      · obtain ⟨ownType, ownSlots, hconforms⟩ := condition
        rintro ⟨-, rfl, hown⟩
        obtain rfl : slots = ownSlots := Option.some.inj (hslots.symm.trans hown)
        rfl
    · rename_i hnone
      simp [hnone]
  · simp [hobject]

theorem decode?_toJson {type : ConditionType} {json : Json} {condition : TypedCondition}
    (hread : decode? type json = some condition) (hcivil : ∀ t ∈ condition.times, t.Civil) :
    decode? type condition.toJson = some condition.truncate := by
  obtain ⟨-, rfl, hslots⟩ := decode?_eq_some_iff.1 hread
  refine decode?_eq_some_iff.2 ⟨rfl, rfl, Slots.decode?_written hslots ?_ ?_⟩
  · intro slot hslot t ht
    exact hcivil t (List.mem_flatMap.2 ⟨slot, hslot, ht⟩)
  · intro slot hslot
    rw [field?_toJson, Slots.get?_of_mem condition.nodup_names hslot]
    rfl

end TypedCondition

namespace Record

/-- The times of a typed condition. -/
def times : Record → List Instant
  | .typed condition => condition.times
  | _ => []

/-- A typed condition with its times in whole seconds. -/
def truncate : Record → Record
  | .typed condition => .typed condition.truncate
  | record => record

theorem roundTrips_typed (type : ConditionType) :
    Json.RoundTrips (decode? (.typed type)) toJson truncate times where
  ne_null {json record} hread _ := by
    obtain ⟨condition, -, rfl⟩ := Option.map_eq_some_iff.1 hread
    simp [toJson, TypedCondition.toJson, Json.ofFields]
  decode_encode {json record} hread hcivil := by
    obtain ⟨condition, hcondition, rfl⟩ := Option.map_eq_some_iff.1 hread
    have hwritten := TypedCondition.decode?_toJson hcondition hcivil
    exact Option.map_eq_some_iff.2 ⟨_, hwritten, rfl⟩

end Record

end Reconciler.Condition
