import Reconciler.SystemError
/-!
What goes wrong when objects are read from a stream of documents.
-/
namespace Reconciler

/-- Why a document is no object.  The texts of failed conversions are not fixed. -/
inductive InvalidObject where
  /-- A value has no JSON form. -/
  | notJson
  | notAnObject
  | missing (field : String)
  /-- The parts of the object are not of their types. -/
  | malformed
deriving DecidableEq, Repr

/-- The text of a reason, if it is fixed. -/
def InvalidObject.message? : InvalidObject → Option String
  | .notAnObject => some "document is not an object"
  | .missing field => some ("missing " ++ field)
  | .notJson | .malformed => none

/-- Why objects cannot be read. -/
inductive StreamError where
  | file (path : String) (source : SystemError)
  | io (source : SystemError)
  | parse
  /-- A document is no object; documents are counted from zero. -/
  | invalidObject (document : Nat) (reason : InvalidObject)
deriving DecidableEq, Repr

/-- The text of an error, if it is fixed. -/
def StreamError.message? : StreamError → Option String
  | .file path source => some ("failed to read " ++ path ++ ": " ++ source.message)
  | .io source => some ("failed to read stream: " ++ source.message)
  | .parse => none
  | .invalidObject document reason =>
    reason.message?.map fun text =>
      "invalid object in document " ++ toString document ++ ": " ++ text

end Reconciler
