import Reconciler.Api.Answer
import Reconciler.Api.Request
/-!
An API server as a client.  Each operation sends one request and reads the answer; an operation
that cannot make its request sends none.
-/
namespace Reconciler.Api

/-- An exchange with a server: the answers to come, and the requests that were sent. -/
structure Exchange where
  answers : List Http.Answer
  requests : List Http.Request := []

namespace Exchange

/-- The answer once no more are to come. -/
def exhausted : Http.Answer :=
  ⟨500, "no response"⟩

/-- Send a request for the next answer. -/
def send (exchange : Exchange) (request : Http.Request) : Http.Answer × Exchange :=
  (exchange.answers.head?.getD exhausted,
    { answers := exchange.answers.tail, requests := exchange.requests ++ [request] })

end Exchange

/-- An operation that sends a request, if it can be made, and reads the answer. -/
def exchanging {α : Type} (request : Built) (read : Http.Answer → Except ApiError α) :
    Action Exchange α :=
  ExceptT.mk fun exchange =>
    match request with
    | .error error => (.error (.api error), exchange)
    | .ok request =>
      let (answer, exchange) := exchange.send request
      ((read answer).mapError .api, exchange)

/-- An operation on an object in the collection that it belongs to. -/
def onObject {α : Type} (object : Object) (next : Collection → Action Exchange α) :
    Action Exchange α := do
  next (← Action.ofScheme (Collection.ofObject object))

/-- The part of an object that holds its status. -/
def statusPart : String := "/status"

/-- The client that exchanges requests and answers with a server. -/
def client (scheme : Scheme) : Client Exchange where
  scheme := scheme
  get gvk key := exchanging (Collection.getRequest ⟨gvk, key.namespaceName⟩ key.name) Api.object
  list gvk options :=
    exchanging (Collection.listRequest ⟨gvk, options.namespaceName⟩ options) (objects gvk)
  create object params := onObject object fun collection =>
    exchanging (collection.createRequest object params) Api.object
  update object params := onObject object fun collection =>
    exchanging (collection.replaceRequest object.metadata.nameAny "" object params) Api.object
  patch object patch params := onObject object fun collection =>
    exchanging (collection.patchRequest object.metadata.nameAny "" patch params) Api.object
  updateStatus object params := onObject object fun collection =>
    exchanging (collection.replaceRequest object.metadata.nameAny statusPart object params)
      Api.object
  patchStatus object patch params := onObject object fun collection =>
    exchanging (collection.patchRequest object.metadata.nameAny statusPart patch params)
      Api.object
  delete object params := onObject object fun collection =>
    exchanging (collection.deleteRequest object.metadata.nameAny params) (deleted Object.decode?)
  deleteAllOf gvk options params :=
    exchanging (Collection.deleteAllRequest ⟨gvk, options.namespaceName⟩ options params)
      (deleted decodeList?)

end Reconciler.Api
