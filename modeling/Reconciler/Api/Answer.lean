import Reconciler.Client.Error
import Reconciler.Http.Message
import Reconciler.Json.Reader
/-!
What the answers of an API server mean.  A status of failure is an error; any other answer must
hold what was asked for.
-/
namespace Reconciler.Api

/-- The error of an answer that reports a failure: the status in its text, or, where there is none,
one made from the answer itself. -/
def failure (answer : Http.Answer) : ApiError :=
  match (Json.parse? answer.text).bind StatusError.decode? with
  | some error => .status error
  | none => .status {
      status := Http.statusText answer.status
      message := Text.quoted answer.text
      reason := "Failed to parse error data"
      code := answer.status }

/-- The value that an answer holds. -/
def value (answer : Http.Answer) : Except ApiError Json :=
  if Http.isFailure answer.status then .error (failure answer)
  else
    match Json.parse? answer.text with
    | some json => .ok json
    | none => .error .malformedAnswer

/-- The value of an answer, read in some way. -/
def reading {α : Type} (decode : Json → Option α) (answer : Http.Answer) : Except ApiError α := do
  match decode (← value answer) with
  | some decoded => return decoded
  | none => throw .malformedAnswer

/-- The object that an answer holds. -/
def object (answer : Http.Answer) : Except ApiError Object :=
  reading Object.decode? answer

/-- The metadata of a list must have the right types where it is there. -/
def isListMeta (json : Json) : Bool :=
  ((do
    let json ← json.asObject?
    let _ ← json.optional? Json.asString? "continue"
    let _ ← json.optional? (Json.asInt? 64) "remainingItemCount"
    let _ ← json.optional? Json.asString? "resourceVersion"
    json.optional? Json.asString? "selfLink") : Option (Option String)).isSome

/-- The items of a list; null is none, but they must be there. -/
def decodeList? (json : Json) : Option (List Object) := do
  let json ← json.asObject?
  if ((json.field? "metadata").map isListMeta).getD true then
    match ← json.field? "items" with
    | .null => some []
    | items => items.asList? Object.decode?
  else none

/-- The objects of a kind that an answer holds.  The items of a list come without type
information, which is that of the kind. -/
def objects (gvk : GroupVersionKind) (answer : Http.Answer) : Except ApiError (List Object) := do
  return (← reading decodeList? answer).map fun object => { object with types := some gvk.types }

/-- Whether a value is a status of the server about what it did. -/
def isStatus (json : Json) : Bool :=
  let text (json : Json) (name : String) : Bool :=
    ((json.field? name).map fun value => value.asString?.isSome).getD true
  let optional (name : String) (test : Json → Bool) : Bool :=
    match json.field? name with
    | none | some .null => true
    | some value => test value
  let cause (json : Json) : Bool :=
    json.isObject && ["reason", "message", "field"].all (text json)
  let details (json : Json) : Bool :=
    json.isObject && ["name", "group", "kind", "uid"].all (text json) &&
      (match json.field? "causes" with
        | none => true
        | some (.arr causes) => causes.all cause
        | some _ => false) &&
      (match json.field? "retryAfterSeconds" with
        | none => true
        | some (.int seconds) => 0 ≤ seconds && seconds < Nat.pow 2 32
        | some _ => false)
  optional "status" (fun value => value = .str "Success" || value = .str "Failure") &&
    ((json.field? "code").map fun value => (StatusError.code? value).isSome).getD true &&
    text json "message" && text json "reason" && optional "metadata" isListMeta &&
    optional "details" details

/-- What answers a deletion: a status, or what was deleted. -/
def deleted {α : Type} (decode : Json → Option α) (answer : Http.Answer) :
    Except ApiError Unit := do
  let json ← value answer
  let fits :=
    if json.field? "kind" = some (.str "Status") then isStatus json else (decode json).isSome
  if fits then return () else throw .malformedAnswer

end Reconciler.Api
