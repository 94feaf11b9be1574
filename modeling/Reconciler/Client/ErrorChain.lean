import Reconciler.Client.Error
import Reconciler.Condition.Accessor
/-!
Errors with what caused them: the text of the error, then that of its cause, and so on.
-/
namespace Reconciler

/-- The text of a stream error. -/
def StreamError.text (error : StreamError) : String :=
  error.message?.getD <|
    match error with
    | .invalidObject document _ =>
      "invalid object in document " ++ toString document ++ ": malformed object"
    | _ => "error parsing: malformed document"

/-- The chain of a stream error. -/
def StreamError.chain (error : StreamError) : List String :=
  error.text ::
    match error with
    | .file _ source | .io source => [source.message]
    | _ => []

namespace ClientError

/-- The text of an error. -/
def text : ClientError → String
  | .object action key source => "error " ++ action ++ " object " ++ key.text ++ ": " ++ source.text
  | .read source => "error reading objects: " ++ source.text
  | .scheme source => source.message?.getD "failed to convert object: malformed object"
  | .api (.status error) => "api request failed: " ++ error.message
  | .api _ => "api request failed"
  | error => error.message?.getD "failed to serialize object"

/-- The chain of an error. -/
def chain (error : ClientError) : List String :=
  error.text ::
    match error with
    | .object _ _ source => source.chain
    | .read source => source.chain
    | _ => []

end ClientError

/-- The chain of an error about a condition. -/
def Condition.AccessError.chain (error : Condition.AccessError) : List String :=
  error.message ::
    match error with
    | .index _ source => source.chain
    | _ => []

end Reconciler
