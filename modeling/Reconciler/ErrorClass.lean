import Reconciler.Json.Decode
/-!
Classes of failures of a request, by which a caller decides what to do about one.
-/
namespace Reconciler

/-- What kind of failure an error is. -/
inductive ErrorClass where
  | notFound
  | conflict
  | alreadyExists
  /-- The request was refused before it reached any object. -/
  | unsupported
  | invalid
  | unknown
deriving DecidableEq, Repr

namespace ErrorClass

/-- The name of a class. -/
def name : ErrorClass → String
  | .notFound => "NotFound"
  | .conflict => "Conflict"
  | .alreadyExists => "AlreadyExists"
  | .unsupported => "Unsupported"
  | .invalid => "Invalid"
  | .unknown => "Unknown"

/-- The class of the reason that an API server gives. -/
def ofReason (reason : String) : ErrorClass :=
  if reason = "NotFound" then .notFound
  else if reason = "Conflict" then .conflict
  else if reason = "AlreadyExists" then .alreadyExists
  else if reason = "Invalid" then .invalid
  else if reason = "MethodNotAllowed" ∨ reason = "NotAcceptable" then .unsupported
  else .unknown

end ErrorClass

/-- The status that an API server answers with when it refuses a request. -/
structure StatusError where
  status : String
  message : String := ""
  reason : String := ""
  code : Nat
deriving DecidableEq, Repr

namespace StatusError

/-- A text that may be absent, but not null. -/
def text? (json : Json) (name : String) : Option String :=
  match json.field? name with
  | none => some ""
  | some value => value.asString?

/-- A code of 16 bits. -/
def code? : Json → Option Nat
  | .int code => if 0 ≤ code ∧ code < 65536 then some code.toNat else none
  | _ => none

/-- Read a status: its text and its code must be there.  A list of the four parts is one too. -/
def decode? : Json → Option StatusError
  | .arr [status, message, reason, code] => do
    return ⟨← status.asString?, ← message.asString?, ← reason.asString?, ← code? code⟩
  | json => do
    return ⟨← (← json.field? "status").asString?, ← text? json "message", ← text? json "reason",
      ← code? (← json.field? "code")⟩

/-- The class of a status is that of its reason. -/
def errorClass (error : StatusError) : ErrorClass :=
  .ofReason error.reason

end StatusError

/-- Turn a failure of a class into no result. -/
def ignoreClass {ε α : Type} (classOf : ε → ErrorClass) (ignored : ErrorClass)
    (result : Except ε α) : Except ε (Option α) :=
  match result with
  | .ok value => .ok (some value)
  | .error error => if classOf error = ignored then .ok none else .error error

end Reconciler
