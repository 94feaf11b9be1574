import Reconciler.Http.Message
import Reconciler.Json.Lenient
import Reconciler.Json.Writer
/-!
Requests as JSON, and answers from it.
-/
namespace Reconciler.Http

/-- The JSON form of a request. -/
def Request.toJson (request : Request) : Json :=
  .ofFields [("method", .str request.method.name), ("uri", .str request.uri),
    ("contentType", .optional request.contentType), ("accept", .optional request.accept),
    ("body", request.body.getD .null)]

/-- The answer with settings: its text is given as it is or as a value. -/
def Answer.ofJson (json : Json) : Answer :=
  { status := (json.nat? "status").getD 200
    text := ((json.field? "body").map Json.compact).getD (json.text "text") }

end Reconciler.Http
