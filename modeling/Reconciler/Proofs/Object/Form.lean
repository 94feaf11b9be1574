import Reconciler.Object.Form
import Reconciler.Proofs.Condition.RoundTrip
import Reconciler.Proofs.Object.Meta
import Reconciler.Proofs.Text.Base64
/-!
Values of a form survive being written, but for what is not written of their times.  What holds of
a record follows from what holds of its fields, each with a name of its own.
-/
namespace Reconciler

open Json

theorem Json.survives_bytes : Survives asBytes? bytes where
  ne_null _ _ := by simp [bytes]
  decode_encode {json octets} _ _ := by
    simp [bytes, asBytes?, asString?, Text.Base64.decode?_encode]

theorem NumberOrText.survives : Survives decode? toJson where
  ne_null {json value} _ _ := by cases value <;> simp [toJson]
  decode_encode {json value} hread _ := by
    cases json with
    | str text =>
        cases hread
        rfl
    | int number =>
        obtain ⟨found, hfound, rfl⟩ := Option.map_eq_some_iff.1 hread
        have hwritten := (survives_int 32).decode_encode hfound (by simp)
        exact Option.map_eq_some_iff.2 ⟨found, hwritten, rfl⟩
    | _ => cases hread

mutual

/-- The times in a value. -/
def Form.times : (form : Form) → form.Value → List Instant
  | .seconds | .micros => fun t => [t]
  | .metadata => ObjectMeta.times
  | .condition _ => Condition.Record.times
  | .list item => List.flatMap item.times
  | .map value => fun map => map.values.flatMap value.times
  | .record table => table.times
  | .text | .truth | .whole _ | .bytes | .numberOrText | .any | .object => fun _ => []

/-- The times in the fields of a record. -/
def Table.times : (table : Table) → table.Row → List Instant
  | .nil => fun _ => []
  | .optional _ form rest => fun row => row.1.toList.flatMap form.times ++ rest.times row.2
  | .required _ form rest => fun row => form.times row.1 ++ rest.times row.2

end

mutual

/-- A value with its times as they are written. -/
def Form.truncate : (form : Form) → form.Value → form.Value
  | .seconds => Instant.truncate
  | .micros => Instant.truncateMicros
  | .metadata => ObjectMeta.truncate
  | .condition _ => Condition.Record.truncate
  | .list item => List.map item.truncate
  | .map value => SortedMap.mapValues value.truncate
  | .record table => table.truncate
  | .text | .truth | .whole _ | .bytes | .numberOrText | .any | .object => id

/-- A record with its times as they are written. -/
def Table.truncate : (table : Table) → table.Row → table.Row
  | .nil => id
  | .optional _ form rest => fun row => (row.1.map form.truncate, rest.truncate row.2)
  | .required _ form rest => fun row => (form.truncate row.1, rest.truncate row.2)

end

namespace Table

theorem map_fst_fields (table : Table) (row : table.Row) :
    (table.fields row).map (·.1) = table.names :=
  match table with
  | .nil => rfl
  | .optional name _ rest | .required name _ rest =>
    congrArg (name :: ·) (rest.map_fst_fields row.2)

theorem nodup_fields (table : Table) (hnames : table.names.Nodup) (row : table.Row) :
    ((table.fields row).map (·.1)).Nodup := by
  rw [table.map_fst_fields]
  exact hnames

theorem pair_eq_some_iff {α β : Type} {first : Option α} {second : Option β} {pair : α × β} :
    (first.bind fun value => second.map (value, ·)) = some pair ↔
      first = some pair.1 ∧ second = some pair.2 := by
  obtain ⟨value, other⟩ := pair
  cases first <;> cases second <;> simp

theorem decode?_optional_iff {name : String} {form : Form} {rest : Table} {json : Json}
    {row : (optional name form rest).Row} : (optional name form rest).decode? json = some row ↔
      json.optional? form.decode? name = some row.1 ∧ rest.decode? json = some row.2 :=
  pair_eq_some_iff

theorem decode?_required_iff {name : String} {form : Form} {rest : Table} {json : Json}
    {row : (required name form rest).Row} : (required name form rest).decode? json = some row ↔
      json.defaulted? form.decode? form.blank name = some row.1 ∧
        rest.decode? json = some row.2 :=
  pair_eq_some_iff

/-- A record is read as blank from an object without fields. -/
theorem decode?_empty : (table : Table) → table.decode? (.obj []) = some table.blank
  | .nil => rfl
  | .optional _ _ rest => decode?_optional_iff.2 ⟨rfl, rest.decode?_empty⟩
  | .required _ _ rest => decode?_required_iff.2 ⟨rfl, rest.decode?_empty⟩

end Table

/-- What is blank is read from some value. -/
theorem Form.exists_blank {form : Form} (hform : form.hasBlank = true) :
    ∃ json, form.decode? json = some form.blank ∧
      (json = .null → form.truncate form.blank = form.blank) := by
  cases form with
  | text => exact ⟨.str "", rfl, by simp⟩
  | truth => exact ⟨.bool false, rfl, by simp⟩
  | whole bits =>
      have hzero : asInt? bits (.int 0) = some 0 := by simp [asInt?]
      exact ⟨.int 0, hzero, by simp⟩
  | bytes => exact ⟨.str "", rfl, by simp⟩
  | numberOrText => exact ⟨.int 0, rfl, by simp⟩
  | any => exact ⟨.null, rfl, fun _ => rfl⟩
  | object => exact ⟨.obj [], rfl, by simp⟩
  | metadata => exact ⟨.obj [], rfl, by simp⟩
  | list item => exact ⟨.arr [], rfl, by simp⟩
  | map value => exact ⟨.obj [], rfl, by simp⟩
  | record table => exact ⟨.obj [], table.decode?_empty, by simp⟩
  | seconds | micros | condition _ => cases hform

mutual

/-- A value of a form survives being written. -/
theorem Form.roundTrips : (form : Form) → form.sound = true →
    RoundTrips form.decode? form.toJson form.truncate form.times
  | .text, _ => survives_string
  | .truth, _ => survives_bool
  | .whole bits, _ => survives_int bits
  | .bytes, _ => survives_bytes
  | .seconds, _ => roundTrips_seconds
  | .micros, _ => roundTrips_micros
  | .numberOrText, _ => NumberOrText.survives
  | .any, _ => survives_some
  | .object, _ => survives_object
  | .metadata, _ => ObjectMeta.roundTrips
  | .condition type, _ => Condition.Record.roundTrips_typed type
  | .list item, hsound => (item.roundTrips hsound).list
  | .map value, hsound => (value.roundTrips hsound).map
  | .record table, hsound => by
      obtain ⟨hnames, htable⟩ := (Bool.and_eq_true _ _).mp hsound
      refine ⟨fun _ _ => present_ne_null _, fun {json row} hread hcivil => ?_⟩
      obtain ⟨object, -, hrow⟩ := Option.bind_eq_some_iff.1 hread
      refine Option.bind_eq_some_iff.2 ⟨present (table.fields row), rfl, ?_⟩
      refine table.decode?_written htable hrow hcivil fun field hfield => ?_
      exact field?_present (table.nodup_fields (of_decide_eq_true hnames) row) hfield

/-- A record is read again from an object that has its fields as they are written. -/
theorem Table.decode?_written : (table : Table) → table.sound = true →
    ∀ {json written : Json} {row : table.Row}, table.decode? json = some row →
    (∀ t ∈ table.times row, t.Civil) →
    (∀ field ∈ table.fields row, written.field? field.1 = field.2) →
    table.decode? written = some (table.truncate row)
  | .nil, _ => fun _ _ _ => rfl
  | .optional name form rest, hsound => by
      intro hread hcivil hfields
      rw [Table.decode?_optional_iff] at hread ⊢
      obtain ⟨hform, hrest⟩ := (Bool.and_eq_true _ _).mp hsound
      obtain ⟨hfirstCivil, hrestCivil⟩ := List.forall_mem_append.1 hcivil
      obtain ⟨hfield, hrestFields⟩ := List.forall_mem_cons.1 hfields
      refine ⟨?_, rest.decode?_written hrest hread.2 hrestCivil hrestFields⟩
      exact (form.roundTrips hform).optional? hread.1 (fun found hfound t ht =>
        hfirstCivil t (List.mem_flatMap.2 ⟨found, Option.mem_toList.2 hfound, ht⟩)) hfield
  | .required name form rest, hsound => by
      intro hread hcivil hfields
      rw [Table.decode?_required_iff] at hread ⊢
      obtain ⟨hsound, hrest⟩ := (Bool.and_eq_true _ _).mp hsound
      obtain ⟨hblank, hform⟩ := (Bool.and_eq_true _ _).mp hsound
      obtain ⟨hfirstCivil, hrestCivil⟩ := List.forall_mem_append.1 hcivil
      obtain ⟨hfield, hrestFields⟩ := List.forall_mem_cons.1 hfields
      obtain ⟨blank, hunset, hnull⟩ := form.exists_blank hblank
      refine ⟨?_, rest.decode?_written hrest hread.2 hrestCivil hrestFields⟩
      exact (form.roundTrips hform).defaulted? hunset hnull hread.1 hfirstCivil hfield

end

/-! Values without times survive as they are. -/

mutual

/-- Whether values of a form have no times. -/
def Form.timeless : Form → Bool
  | .seconds | .micros | .metadata | .condition _ => false
  | .list item => item.timeless
  | .map value => value.timeless
  | .record table => table.timeless
  | .text | .truth | .whole _ | .bytes | .numberOrText | .any | .object => true

/-- Whether the fields of a record have no times. -/
def Table.timeless : Table → Bool
  | .nil => true
  | .optional _ form rest | .required _ form rest => form.timeless && rest.timeless

end

mutual

theorem Form.times_eq_nil : (form : Form) → form.timeless = true →
    ∀ value, form.times value = []
  | .list item, h => fun _ => List.flatMap_eq_nil_iff.2 fun value _ => item.times_eq_nil h value
  | .map form, h => fun _ => List.flatMap_eq_nil_iff.2 fun value _ => form.times_eq_nil h value
  | .record table, h => table.times_eq_nil h
  | .text, _ | .truth, _ | .whole _, _ | .bytes, _ | .numberOrText, _ | .any, _ | .object, _ =>
    fun _ => rfl

theorem Table.times_eq_nil : (table : Table) → table.timeless = true →
    ∀ row, table.times row = []
  | .nil, _ => fun _ => rfl
  | .optional _ form rest, h => fun row => by
      obtain ⟨hform, hrest⟩ := (Bool.and_eq_true _ _).mp h
      refine List.append_eq_nil_iff.2 ⟨?_, rest.times_eq_nil hrest row.2⟩
      exact List.flatMap_eq_nil_iff.2 fun value _ => form.times_eq_nil hform value
  | .required _ form rest, h => fun row => by
      obtain ⟨hform, hrest⟩ := (Bool.and_eq_true _ _).mp h
      exact List.append_eq_nil_iff.2 ⟨form.times_eq_nil hform row.1, rest.times_eq_nil hrest row.2⟩

end

mutual

theorem Form.truncate_eq_id : (form : Form) → form.timeless = true → form.truncate = id
  | .list item, h => (congrArg List.map (item.truncate_eq_id h)).trans List.map_id_fun
  | .map value, h =>
    (congrArg SortedMap.mapValues (value.truncate_eq_id h)).trans (funext SortedMap.mapValues_id)
  | .record table, h => table.truncate_eq_id h
  | .text, _ | .truth, _ | .whole _, _ | .bytes, _ | .numberOrText, _ | .any, _ | .object, _ => rfl

theorem Table.truncate_eq_id : (table : Table) → table.timeless = true → table.truncate = id
  | .nil, _ => rfl
  | .optional _ form rest, h => funext fun row => by
      obtain ⟨hform, hrest⟩ := (Bool.and_eq_true _ _).mp h
      rw [Table.truncate, form.truncate_eq_id hform, rest.truncate_eq_id hrest, Option.map_id]
      rfl
  | .required _ form rest, h => funext fun row => by
      obtain ⟨hform, hrest⟩ := (Bool.and_eq_true _ _).mp h
      rw [Table.truncate, form.truncate_eq_id hform, rest.truncate_eq_id hrest]
      rfl

end

end Reconciler
