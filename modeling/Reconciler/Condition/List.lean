import Reconciler.Condition.Update
/-!
Lists of conditions.  A condition is found by its type; the first one of a type counts.  An update
of a type that the list lacks appends a new condition, and does so only when all went well.
-/
namespace Reconciler.Condition

namespace Accessor

variable (accessor : Accessor)

/-- The position of the first condition of a type, counting from `start`.  A condition before it
whose type cannot be read is an error. -/
def findIndexFrom (start : Nat) (type : String) :
    List Record → Except AccessError (Option Nat)
  | [] => .ok none
  | record :: rest =>
    match accessor.type record with
    | .error error => .error (.index start error)
    | .ok found => if found = type then .ok (some start) else findIndexFrom (start + 1) type rest

/-- The position of the first condition of a type. -/
def findIndex (conditions : List Record) (type : String) : Except AccessError (Option Nat) :=
  accessor.findIndexFrom 0 type conditions

/-- The first condition of a type. -/
def find (conditions : List Record) (type : String) : Except AccessError (Option Record) :=
  (accessor.findIndex conditions type).map fun position => position.bind (conditions[·]?)

/-- Copy the first condition of a type over `target`: whether there is one, and the target
afterwards. -/
def findInto (conditions : List Record) (type : String) (target : Record) :
    Except AccessError Bool × Record :=
  match accessor.find conditions type with
  | .error error => (.error error, target)
  | .ok none => (.ok false, target)
  | .ok (some found) => (.ok true, found)

/-- The status of the first condition of a type, unknown if there is none. -/
def findStatus (conditions : List Record) (type : String) : Except AccessError Status := do
  match ← accessor.find conditions type with
  | some found => accessor.status found
  | none => return .unknown

/-- Apply updates to the condition at a position. -/
def updateAt (now : Instant) (position : Nat) (updates : List Update)
    (conditions : List Record) : Except AccessError Unit × List Record :=
  match conditions[position]? with
  | none => (.ok (), conditions)
  | some record =>
    let (result, updated) := (accessor.update now updates).on record
    (result, conditions.set position updated)

/-- A new condition of a type with the updates applied, begun and finished at different times: the
clock is read before the updates, and again after them. -/
def startBetween (begun ended : Instant) (type : String) (updates : List Update) : Edit Unit := do
  accessor.setType type
  accessor.setLastTransitionTimeIfExists begun
  accessor.update ended updates

/-- Apply updates to the condition of a type, which is appended if it is missing, while time goes
on.  A condition that is there is only touched when the call ends. -/
def updateListBetween (begun ended : Instant) (kind : RecordKind) (type : String)
    (updates : List Update) (conditions : List Record) : Except AccessError Unit × List Record :=
  match accessor.findIndex conditions type with
  | .error error => (.error error, conditions)
  | .ok (some position) => accessor.updateAt ended position updates conditions
  | .ok none =>
    match (accessor.startBetween begun ended type updates).on (.blank kind begun) with
    | (.ok (), record) => (.ok (), conditions ++ [record])
    | (.error error, _) => (.error error, conditions)

/-- The same for a list that may be unset, which counts as empty and is set by any update. -/
def updateOptionalListBetween (begun ended : Instant) (kind : RecordKind) (type : String)
    (updates : List Update) (conditions : Option (List Record)) :
    Except AccessError Unit × Option (List Record) :=
  let (result, updated) :=
    accessor.updateListBetween begun ended kind type updates (conditions.getD [])
  (result, some updated)

/-- The update of a list while no time passes. -/
def updateList (now : Instant) (kind : RecordKind) (type : String) (updates : List Update)
    (conditions : List Record) : Except AccessError Unit × List Record :=
  accessor.updateListBetween now now kind type updates conditions

/-- The update of a list that may be unset while no time passes. -/
def updateOptionalList (now : Instant) (kind : RecordKind) (type : String)
    (updates : List Update) (conditions : Option (List Record)) :
    Except AccessError Unit × Option (List Record) :=
  accessor.updateOptionalListBetween now now kind type updates conditions

theorem updateOptionalList_eq (now : Instant) (kind : RecordKind) (type : String)
    (updates : List Update) (conditions : Option (List Record)) :
    accessor.updateOptionalList now kind type updates conditions =
      let (result, updated) := accessor.updateList now kind type updates (conditions.getD [])
      (result, some updated) := rfl

end Accessor

end Reconciler.Condition
