import Reconciler.Kustomize.Reader
import Reconciler.Object.Stream
import Reconciler.Scheme
import Reconciler.Tool.Command
/-!
Building kustomizations with a tool, and converting what it prints.
-/
namespace Reconciler

/-- Why building a kustomization fails. -/
inductive KustomizeError where
  | tool (source : ToolError)
  /-- The kustomization cannot be put where the tool finds it. -/
  | write
  | printed (source : StreamError)
  | decode (source : SchemeError)
deriving DecidableEq

/-- The text of an error, if it is fixed. -/
def KustomizeError.message? : KustomizeError → Option String
  | .tool source => source.message?
  | .write => none
  | .printed source => source.message?.map ("invalid kustomize output: " ++ ·)
  | .decode source => source.message?.map ("error decoding object: " ++ ·)

/-- A tool that builds kustomizations; the directory to build is its last argument. -/
structure Kustomizer where
  binary : String := "kustomize"
  arguments : List String := ["build"]

namespace Kustomizer

/-- Build the kustomization in a directory. -/
def buildDirectory (kustomizer : Kustomizer) (directory : String) :
    ExceptT KustomizeError (StateM Machine) (List Object) := do
  let printed ← ExceptT.adapt KustomizeError.tool
    (Tooling.runOutput none kustomizer.binary (kustomizer.arguments ++ [directory]))
  match Object.read (Text.Utf8.decodeLossy printed) with
  | .ok objects => return objects
  | .error source => throw (.printed source)

/-- Build a kustomization in a temporary directory of its own. -/
def build (kustomizer : Kustomizer) (kustomization : Kustomization) :
    ExceptT KustomizeError (StateM Machine) (List Object) := do
  let text := Text.Utf8.encode kustomization.write
  let built ← Machine.withTemporary "kustomization" fun place => do
    modify fun machine => { machine with
      files := machine.files.put (place ++ ["kustomization.yaml"]) (.file text 0o644) }
    ExceptT.run (kustomizer.buildDirectory (Machine.pathOf place))
  match built with
  | none => throw .write
  | some result => ExceptT.mk (pure result)

/-- Convert built objects; an object of another kind is an error. -/
def decodeObjects (scheme : Scheme) (type : ObjectType) (objects : List Object) :
    Except KustomizeError (List type.Value) :=
  objects.mapM fun object => (scheme.fromDynamic type object).mapError .decode

end Kustomizer

end Reconciler
