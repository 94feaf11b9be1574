import Reconciler.ErrorClass
import Reconciler.Label.Parser
import Reconciler.Object.StreamError
import Reconciler.Reference
/-!
What goes wrong when a client works on objects, and what class of failure each error is.
-/
namespace Reconciler

/-- Why a request to an API server fails. -/
inductive ApiError where
  /-- The server refused the request. -/
  | status (error : StatusError)
  /-- The request cannot be made; the text is fixed where the request itself is checked. -/
  | buildRequest (message : Option String)
  /-- The answer does not have the expected form. -/
  | malformedAnswer
deriving DecidableEq, Repr

/-- The class of a failed request. -/
def ApiError.errorClass : ApiError → ErrorClass
  | .status error => error.errorClass
  | _ => .unknown

/-- Why an operation on objects fails. -/
inductive ClientError where
  | notFound (groupKind : GroupKind) (key : ObjectKey)
  | alreadyExists (groupKind : GroupKind) (key : ObjectKey)
  /-- The client does not do what is asked for. -/
  | unsupported (what : String)
  | selector (source : Label.ParseError)
  | scheme (source : SchemeError)
  | api (source : ApiError)
  | serialization
  /-- The operation failed on one object of several. -/
  | object (action : String) (key : ObjectKey) (source : ClientError)
  | read (source : StreamError)
deriving DecidableEq

namespace ClientError

/-- The class of an error; an error on one of several objects is of the class of its source. -/
def errorClass : ClientError → ErrorClass
  | .notFound .. => .notFound
  | .alreadyExists .. => .alreadyExists
  | .unsupported _ => .unsupported
  | .selector _ => .invalid
  | .api source => source.errorClass
  | .object _ _ source => source.errorClass
  | .scheme _ | .serialization | .read _ => .unknown

/-- The text of an error, if it is fixed. -/
def message? : ClientError → Option String
  | .notFound groupKind key => some (groupKind.text ++ " " ++ key.text ++ " not found")
  | .alreadyExists groupKind key => some (groupKind.text ++ " " ++ key.text ++ " already exists")
  | .unsupported what => some (what ++ " is not supported")
  | .selector source => some source.message
  | .scheme source => source.message?
  | .api _ | .serialization => none
  | .object action key source =>
    source.message?.map fun text => "error " ++ action ++ " object " ++ key.text ++ ": " ++ text
  | .read source => source.message?.map fun text => "error reading objects: " ++ text

end ClientError

end Reconciler
