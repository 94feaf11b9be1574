import Reconciler.Json.Basic
/-!
Options of requests.
-/
namespace Reconciler

/-- Options of writing an object. -/
structure PostParams where
  dryRun : Bool := false
  fieldManager : Option String := none
deriving DecidableEq, Repr

/-- What to do about unknown fields of a patch. -/
inductive FieldValidation where
  | strict
  | warn
  | ignore
deriving DecidableEq, Repr

/-- The name of a way to treat unknown fields. -/
def FieldValidation.name : FieldValidation → String
  | .strict => "Strict"
  | .warn => "Warn"
  | .ignore => "Ignore"

/-- Options of patching an object. -/
structure PatchParams where
  dryRun : Bool := false
  force : Bool := false
  fieldManager : Option String := none
  fieldValidation : Option FieldValidation := none
deriving DecidableEq, Repr

/-- What an object must still be when it is deleted. -/
structure Preconditions where
  resourceVersion : Option String := none
  uid : Option String := none
deriving DecidableEq, Repr

/-- How the objects that belong to a deleted one are deleted. -/
inductive PropagationPolicy where
  | orphan
  | background
  | foreground
deriving DecidableEq, Repr

/-- The name of a policy. -/
def PropagationPolicy.name : PropagationPolicy → String
  | .orphan => "Orphan"
  | .background => "Background"
  | .foreground => "Foreground"

/-- Options of deleting objects. -/
structure DeleteParams where
  dryRun : Bool := false
  gracePeriodSeconds : Option Nat := none
  propagationPolicy : Option PropagationPolicy := none
  preconditions : Option Preconditions := none
deriving DecidableEq, Repr

/-- How the version of a list has to fit the one asked for. -/
inductive VersionMatch where
  | exact
  | notOlderThan
deriving DecidableEq, Repr

/-- The name of a way to fit. -/
def VersionMatch.name : VersionMatch → String
  | .exact => "Exact"
  | .notOlderThan => "NotOlderThan"

/-- Which objects a request is about. -/
structure ListOptions where
  /-- Objects of one namespace only. -/
  namespaceName : Option String := none
  labelSelector : Option String := none
  fieldSelector : Option String := none
  timeout : Option Nat := none
  limit : Option Nat := none
  continueToken : Option String := none
  resourceVersion : Option String := none
  versionMatch : Option VersionMatch := none
deriving DecidableEq, Repr

/-- The ways to change an object. -/
inductive Patch where
  | merge (body : Json)
  | apply (body : Json)
  | strategic (body : Json)
deriving DecidableEq

/-- What a patch holds. -/
def Patch.body : Patch → Json
  | .merge body | .apply body | .strategic body => body

end Reconciler
