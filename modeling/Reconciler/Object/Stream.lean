import Reconciler.Object.Basic
import Reconciler.Object.StreamError
import Reconciler.Text.Utf8
import Reconciler.Yaml.Value.Json
import Reconciler.Yaml.Value.Reader
/-!
Reading objects from a stream of documents.  Empty documents are passed over; every other one must
be an object that says of what kind it is.  The first document that is not decides the error.
A document that is null under a tag is empty too.
-/
namespace Reconciler

namespace Object

/-- A field of an object that must hold a text. -/
def required (fields : List (String × Json)) (name : String) : Except InvalidObject Unit :=
  match Entries.get? name fields with
  | some (.str text) => if text.isEmpty then .error (.missing name) else .ok ()
  | _ => .error (.missing name)

/-- The object that a document describes. -/
def ofDocument (document : Yaml.Value) : Except InvalidObject Object :=
  match document.toJson? with
  | none => .error .notJson
  | some (.obj fields) => do
    required fields "apiVersion"
    required fields "kind"
    match Object.decode? (.obj fields) with
    | some object => return object
    | none => throw .malformed
  | some _ => .error .notAnObject

/-- The objects of documents, of which `index` came before. -/
def ofDocuments (index : Nat) :
    List (Except Yaml.Error Yaml.Value) → Except StreamError (List Object)
  | [] => .ok []
  | .error _ :: _ => .error .parse
  | .ok document :: documents =>
    if document.isNull then ofDocuments (index + 1) documents
    else
      match ofDocument document with
      | .error reason => .error (.invalidObject index reason)
      | .ok object => (ofDocuments (index + 1) documents).map (object :: ·)

/-- Read the objects of a text. -/
def read (text : String) : Except StreamError (List Object) :=
  ofDocuments 0 (Yaml.Value.documents text)

/-- Read the objects of a stream of octets. -/
def readOctets (octets : List UInt8) : Except StreamError (List Object) :=
  match Text.Utf8.decode? octets with
  | some text => read text
  | none => .error (.io .invalidUtf8)

/-- Read the objects of a file, given what reading the file brings. -/
def readAt (path : String) (content : Except SystemError (List UInt8)) :
    Except StreamError (List Object) :=
  match content with
  | .error error => .error (.file path error)
  | .ok octets =>
    match Text.Utf8.decode? octets with
    | some text => read text
    | none => .error (.file path .invalidUtf8)

end Object

end Reconciler
