import Reconciler.Condition.Field
/-!
Records that hold a condition.  A typed condition is a closed record: it has the fields of its type
and no others, and each field only takes values of its own type.  A JSON object is an open record:
every field is there, and an absent one holds nothing.  A JSON value that is no object is no record
at all, and says so when a field is asked for.
-/
namespace Reconciler.Condition

/-- The condition types. -/
inductive ConditionType where
  | condition
  | deployment
  | replicaSet
  | statefulSet
  | daemonSet
  | pod
  | node
  | job
  | namespace
  | persistentVolumeClaim
  | customResourceDefinition
deriving DecidableEq, Repr

namespace ConditionType

/-- All condition types. -/
def all : List ConditionType :=
  [.condition, .deployment, .replicaSet, .statefulSet, .daemonSet, .pod, .node, .job, .namespace,
    .persistentVolumeClaim, .customResourceDefinition]

/-- The name of a condition type. -/
def name : ConditionType → String
  | .condition => "Condition"
  | .deployment => "DeploymentCondition"
  | .replicaSet => "ReplicaSetCondition"
  | .statefulSet => "StatefulSetCondition"
  | .daemonSet => "DaemonSetCondition"
  | .pod => "PodCondition"
  | .node => "NodeCondition"
  | .job => "JobCondition"
  | .namespace => "NamespaceCondition"
  | .persistentVolumeClaim => "PersistentVolumeClaimCondition"
  | .customResourceDefinition => "CustomResourceDefinitionCondition"

/-- The condition type with a name. -/
def ofName? (name : String) : Option ConditionType :=
  all.find? fun type => type.name = name

/-- The fields that most condition types have. -/
def commonFields : List (String × FieldType) :=
  [("type", .string), ("status", .string), ("reason", .optionalString),
    ("message", .optionalString), ("lastTransitionTime", .optionalTime)]

/-- The fields of a condition type. -/
def fields : ConditionType → List (String × FieldType)
  | .condition =>
    [("type", .string), ("status", .string), ("reason", .string), ("message", .string),
      ("lastTransitionTime", .time), ("observedGeneration", .optionalInt)]
  | .deployment => commonFields ++ [("lastUpdateTime", .optionalTime)]
  | .pod | .job | .persistentVolumeClaim => commonFields ++ [("lastProbeTime", .optionalTime)]
  | .node => commonFields ++ [("lastHeartbeatTime", .optionalTime)]
  | .replicaSet | .statefulSet | .daemonSet | .namespace | .customResourceDefinition =>
    commonFields

theorem nodup_fields (type : ConditionType) : (type.fields.map (·.1)).Nodup := by
  cases type <;> decide

end ConditionType

/-- A field of a closed record: it holds a value of its type. -/
structure Slot where
  type : FieldType
  value : FieldValue
  holds : type.Holds value
deriving DecidableEq

/-- Why a record refuses an assignment. -/
inductive FieldError where
  | notARecord
  | missing
  | mismatch (expected : FieldType)
deriving DecidableEq, Repr

/-- Named slots. -/
abbrev Slots := List (String × Slot)

namespace Slots

/-- The names and types of slots. -/
def shape (slots : Slots) : List (String × FieldType) :=
  slots.map fun slot => (slot.1, slot.2.type)

/-- Unassigned slots of a shape. -/
def blank (now : Instant) (fields : List (String × FieldType)) : Slots :=
  fields.map fun field => (field.1, ⟨field.2, field.2.blank now, FieldType.holds_blank now _⟩)

theorem shape_blank (now : Instant) (fields : List (String × FieldType)) :
    (blank now fields).shape = fields := by
  simp [blank, shape, Function.comp_def]

/-- The value of a slot. -/
def get? (name : String) : Slots → Option FieldValue
  | [] => none
  | slot :: rest => if slot.1 = name then some slot.2.value else get? name rest

theorem get?_blank (now : Instant) (fields : List (String × FieldType)) (name : String) :
    (blank now fields).get? name = (fields.lookup name).map (·.blank now) := by
  induction fields with
  | nil => rfl
  | cons field rest ih =>
    obtain ⟨own, type⟩ := field
    by_cases hname : own = name
    · simp [blank, get?, hname]
    · have hne : (name == own) = false := beq_false_of_ne (Ne.symm hname)
      simpa [blank, get?, hname, List.lookup_cons, hne] using ih

/-- Assign to a slot. -/
def set (name : String) (value : FieldValue) : Slots → Except FieldError Slots
  | [] => .error .missing
  | slot :: rest =>
    if slot.1 = name then
      match took : slot.2.type.take? value with
      | some taken => .ok ((slot.1, ⟨slot.2.type, taken, FieldType.holds_of_take? took⟩) :: rest)
      | none => .error (.mismatch slot.2.type)
    else (set name value rest).map (slot :: ·)

/-- An assignment keeps names and types. -/
theorem shape_set {name : String} {value : FieldValue} {slots result : Slots}
    (assigned : set name value slots = .ok result) : result.shape = slots.shape := by
  induction slots generalizing result with
  | nil => simp [set] at assigned
  | cons slot rest ih =>
    unfold set at assigned
    split at assigned
    · split at assigned
      · cases assigned; rfl
      · cases assigned
    · cases tail : set name value rest with
      | error e => simp [tail, Except.map] at assigned
      | ok found =>
        simp only [tail, Except.map, Except.ok.injEq] at assigned
        subst assigned
        have := ih tail
        simp_all [shape]

theorem isSome_get? (name : String) (slots : Slots) :
    (slots.get? name).isSome = (slots.shape.lookup name).isSome := by
  induction slots with
  | nil => rfl
  | cons slot rest ih =>
    by_cases hname : slot.1 = name
    · simp [get?, shape, hname]
    · have hne : (name == slot.1) = false := beq_false_of_ne (Ne.symm hname)
      simpa [get?, shape, hname, List.lookup_cons, hne] using ih

theorem exists_mem_of_get? {name : String} {value : FieldValue} {slots : Slots}
    (hget : slots.get? name = some value) : ∃ slot ∈ slots, slot.2.value = value := by
  induction slots with
  | nil => cases hget
  | cons slot rest ih =>
    by_cases hname : slot.1 = name
    · exact ⟨slot, List.mem_cons_self, by simpa [get?, hname] using hget⟩
    · rw [get?, if_neg hname] at hget
      obtain ⟨other, hmem, hvalue⟩ := ih hget
      exact ⟨other, List.mem_cons_of_mem _ hmem, hvalue⟩

theorem holds_get? {name : String} {value : FieldValue} {slots : Slots}
    (hget : slots.get? name = some value) :
    ∃ type, slots.shape.lookup name = some type ∧ type.Holds value := by
  induction slots with
  | nil => cases hget
  | cons slot rest ih =>
    by_cases hname : slot.1 = name
    · obtain rfl : slot.2.value = value := by simpa [get?, hname] using hget
      exact ⟨slot.2.type, by simp [shape, hname], slot.2.holds⟩
    · have hne : (name == slot.1) = false := beq_false_of_ne (Ne.symm hname)
      rw [get?, if_neg hname] at hget
      obtain ⟨type, hlookup, hholds⟩ := ih hget
      exact ⟨type, by simpa [shape, List.lookup_cons, hne] using hlookup, hholds⟩

/-- The slot that was assigned to holds what its type took of the value. -/
theorem get?_set_self {name : String} {value : FieldValue} {slots result : Slots}
    (hset : set name value slots = .ok result) :
    ∃ type taken, slots.shape.lookup name = some type ∧ type.take? value = some taken ∧
      result.get? name = some taken := by
  induction slots generalizing result with
  | nil => cases hset
  | cons slot rest ih =>
    unfold set at hset
    split at hset
    · rename_i hname
      split at hset
      · rename_i taken htaken
        cases hset
        exact ⟨slot.2.type, taken, by simp [shape, hname], htaken, by simp [get?, hname]⟩
      · cases hset
    · rename_i hname
      have hne : (name == slot.1) = false := beq_false_of_ne (Ne.symm hname)
      cases htail : set name value rest with
      | error error => simp [htail, Except.map] at hset
      | ok found =>
        simp only [htail, Except.map, Except.ok.injEq] at hset
        subst hset
        obtain ⟨type, taken, hlookup, htaken, hget⟩ := ih htail
        refine ⟨type, taken, ?_, htaken, ?_⟩
        · simpa [shape, List.lookup_cons, hne] using hlookup
        · simpa [get?, hname] using hget

/-- An assignment leaves the other slots alone. -/
theorem get?_set_ne {name other : String} {value : FieldValue} {slots result : Slots}
    (hne : other ≠ name) (hset : set name value slots = .ok result) :
    result.get? other = slots.get? other := by
  induction slots generalizing result with
  | nil => cases hset
  | cons slot rest ih =>
    unfold set at hset
    split at hset
    · rename_i hname
      split at hset
      · cases hset
        simp [get?, hname, hne.symm]
      · cases hset
    · cases htail : set name value rest with
      | error error => simp [htail, Except.map] at hset
      | ok found =>
        simp only [htail, Except.map, Except.ok.injEq] at hset
        subst hset
        simp [get?, ih htail]

/-- A slot can be assigned what its type takes. -/
theorem exists_set {name : String} {type : FieldType} {value taken : FieldValue} {slots : Slots}
    (hlookup : slots.shape.lookup name = some type) (htake : type.take? value = some taken) :
    ∃ result, set name value slots = .ok result := by
  induction slots with
  | nil => cases hlookup
  | cons slot rest ih =>
    unfold set
    by_cases hname : slot.1 = name
    · rw [if_pos hname]
      have htype : slot.2.type = type := by simpa [shape, hname] using hlookup
      split
      · exact ⟨_, rfl⟩
      · rename_i hrefused
        rw [htype, htake] at hrefused
        cases hrefused
    · rw [if_neg hname]
      have hne : (name == slot.1) = false := beq_false_of_ne (Ne.symm hname)
      have hrest : (shape rest).lookup name = some type := by
        simpa [shape, List.lookup_cons, hne] using hlookup
      obtain ⟨result, hresult⟩ := ih hrest
      exact ⟨slot :: result, by rw [hresult]; rfl⟩

/-- Where no name stands twice, a slot that holds something is written as the field of its name. -/
theorem get?_written {slots : Slots} (hnames : (slots.map (·.1)).Nodup) (name : String) :
    Entries.get? name ((slots.filter fun slot => slot.2.value ≠ .null).map
        fun slot => (slot.1, slot.2.value.toJson)) =
      ((slots.get? name).filter (· ≠ .null)).map FieldValue.toJson := by
  induction slots with
  | nil => rfl
  | cons slot rest ih =>
    obtain ⟨hfirst, hrest⟩ := List.nodup_cons.1 hnames
    by_cases hname : slot.1 = name
    · subst hname
      by_cases hnull : slot.2.value = .null
      · have habsent : slot.1 ∉ ((rest.filter fun slot => slot.2.value ≠ .null).map
            fun slot => (slot.1, slot.2.value.toJson)).map (·.1) := by
          intro hmem
          simp only [List.map_map, List.mem_map, List.mem_filter] at hmem
          obtain ⟨other, ⟨hother, -⟩, hsame⟩ := hmem
          exact hfirst (List.mem_map.2 ⟨other, hother, hsame⟩)
        rw [List.filter_cons_of_neg (by simpa using hnull),
          Entries.get?_eq_none_of_not_mem habsent, get?, if_pos rfl, hnull]
        rfl
      · simp [get?, hnull, Entries.get?, Option.filter]
    · have hne : compare name slot.1 ≠ .eq :=
        fun hsame => hname (Std.LawfulEqOrd.eq_of_compare hsame).symm
      by_cases hnull : slot.2.value = .null
      · simpa [get?, hname, hnull] using ih hrest
      · simpa [get?, hname, hnull, Entries.get?, hne] using ih hrest

/-- Read the slots of a shape from serialized fields. -/
def decode? (json : Json) : List (String × FieldType) → Option Slots
  | [] => some []
  | field :: rest =>
    match found : field.2.decode? (json.field? field.1) with
    | none => none
    | some value =>
      (decode? json rest).map ((field.1, ⟨field.2, value, FieldType.holds_of_decode? found⟩) :: ·)

theorem shape_decode? {json : Json} {fields : List (String × FieldType)} {slots : Slots}
    (decoded : decode? json fields = some slots) : slots.shape = fields := by
  induction fields generalizing slots with
  | nil => cases decoded; rfl
  | cons field rest ih =>
    unfold decode? at decoded
    split at decoded
    · cases decoded
    · obtain ⟨tail, found, rfl⟩ := Option.map_eq_some_iff.1 decoded
      have := ih found
      simp_all [shape]

end Slots

/-- A condition of one of the condition types. -/
structure TypedCondition where
  type : ConditionType
  slots : Slots
  conforms : slots.shape = type.fields
deriving DecidableEq

namespace TypedCondition

/-- A condition that nothing was assigned to. -/
def blank (type : ConditionType) (now : Instant) : TypedCondition :=
  ⟨type, Slots.blank now type.fields, Slots.shape_blank now _⟩

/-- Assign to a field. -/
def set (condition : TypedCondition) (name : String) (value : FieldValue) :
    Except FieldError TypedCondition :=
  match assigned : condition.slots.set name value with
  | .ok slots => .ok ⟨condition.type, slots, (Slots.shape_set assigned).trans condition.conforms⟩
  | .error error => .error error

theorem set_eq_ok {condition result : TypedCondition} {name : String} {value : FieldValue}
    (hset : condition.set name value = .ok result) :
    result.type = condition.type ∧ condition.slots.set name value = .ok result.slots := by
  unfold set at hset
  split at hset
  · rename_i slots hslots
    cases hset
    exact ⟨rfl, hslots⟩
  · cases hset

theorem exists_set {condition : TypedCondition} {name : String} {type : FieldType}
    {value taken : FieldValue} (hlookup : condition.type.fields.lookup name = some type)
    (htake : type.take? value = some taken) :
    ∃ result, condition.set name value = .ok result := by
  rw [← condition.conforms] at hlookup
  obtain ⟨slots, hslots⟩ := Slots.exists_set hlookup htake
  unfold set
  split
  · exact ⟨_, rfl⟩
  · rename_i hrefused
    rw [hslots] at hrefused
    cases hrefused

/-- Read a condition from JSON; unknown fields are dropped. -/
def decode? (type : ConditionType) (json : Json) : Option TypedCondition :=
  if json.isObject then
    match decoded : Slots.decode? json type.fields with
    | some slots => some ⟨type, slots, Slots.shape_decode? decoded⟩
    | none => none
  else none

/-- The JSON form: the fields that hold something. -/
def toJson (condition : TypedCondition) : Json :=
  .ofFields ((condition.slots.filter fun slot => slot.2.value ≠ .null).map
    fun slot => (slot.1, slot.2.value.toJson))

theorem nodup_names (condition : TypedCondition) : (condition.slots.map (·.1)).Nodup := by
  have hfields := condition.type.nodup_fields
  rwa [← condition.conforms, Slots.shape, List.map_map] at hfields

/-- The slots that hold something are the fields of the JSON form. -/
theorem field?_toJson (condition : TypedCondition) (name : String) :
    condition.toJson.field? name =
      ((condition.slots.get? name).filter (· ≠ .null)).map FieldValue.toJson := by
  have hnames := condition.nodup_names
  have hkept := hnames.sublist ((List.filter_sublist (p := fun slot : String × Slot =>
    decide (slot.2.value ≠ .null))).map (·.1))
  rw [toJson, Json.ofFields, Json.field?, Entries.get?_ofList, Slots.get?_written hnames]
  rw [List.map_map]
  exact hkept

end TypedCondition

/-- Something that may hold a condition. -/
inductive Record where
  | typed (condition : TypedCondition)
  /-- The fields of a JSON object. -/
  | map (fields : List (String × Json))
  /-- Any JSON value; only objects are records. -/
  | json (value : Json)
deriving DecidableEq

/-- The kinds of records that a list of conditions can hold. -/
inductive RecordKind where
  | typed (type : ConditionType)
  | map
  | json
deriving DecidableEq, Repr

namespace Record

/-- The kind of a record. -/
def kind : Record → RecordKind
  | .typed condition => .typed condition.type
  | .map _ => .map
  | .json _ => .json

/-- The name of the record's type in messages. -/
def typeName : Record → String
  | .typed condition => condition.type.name
  | .map _ => "JSON object"
  | .json value => "JSON " ++ value.kindName

/-- Whether the value has fields at all. -/
def isRecord : Record → Bool
  | .json value => value.isObject
  | _ => true

/-- The value of a field in an open record. -/
def openField (fields : List (String × Json)) (name : String) : FieldValue :=
  ((Entries.get? name fields).map .ofJson).getD .null

/-- The value of a field, if the record has the field. -/
def field? (record : Record) (name : String) : Option FieldValue :=
  match record with
  | .typed condition => condition.slots.get? name
  | .map fields => some (openField fields name)
  | .json (.obj fields) => some (openField fields name)
  | .json _ => none

/-- Assign to a field. -/
def setField (record : Record) (name : String) (value : FieldValue) : Except FieldError Record :=
  match record with
  | .typed condition => (condition.set name value).map .typed
  | .map fields => .ok (.map (Entries.insert name value.toJson fields))
  | .json (.obj fields) => .ok (.json (.obj (Entries.insert name value.toJson fields)))
  | .json _ => .error .notARecord

/-- A record that nothing was assigned to. -/
def blank (kind : RecordKind) (now : Instant) : Record :=
  match kind with
  | .typed type => .typed (.blank type now)
  | .map => .map []
  | .json => .json (.obj [])

/-- Read a record from JSON. -/
def decode? (kind : RecordKind) (json : Json) : Option Record :=
  match kind, json with
  | .typed type, json => (TypedCondition.decode? type json).map .typed
  | .map, .obj fields => some (.map fields)
  | .map, _ => none
  | .json, json => some (.json json)

/-- The JSON form of a record. -/
def toJson : Record → Json
  | .typed condition => condition.toJson
  | .map fields => .obj fields
  | .json value => value

end Record

end Reconciler.Condition
