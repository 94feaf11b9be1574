import Reconciler.Tool.Builder
import Reconciler.Tool.Copy
import Reconciler.Tool.Module
/-!
Asking the tool `go` about modules, and building packages of them.
-/
namespace Reconciler

/-- A way to ask about modules. -/
structure Executor where
  /-- The directory of the main module, the current one if unset. -/
  directory : Option String := none
  binary : String := "go"

namespace Executor

variable (executor : Executor)

/-- The modules that match a pattern. -/
def listMatching (pattern : String) : Tooling (List GoModule) := do
  let printed ←
    Tooling.runOutput executor.directory executor.binary ["list", "-json", "-m", pattern]
  match (Text.Utf8.decode? printed).bind GoModule.ofStream? with
  | some modules => return modules
  | none => throw .decode

/-- All modules of the build. -/
def list : Tooling (List GoModule) :=
  executor.listMatching "all"

/-- The module with a path. -/
def get (name : String) : Tooling GoModule := do
  match (← executor.listMatching name).find? (·.path = name) with
  | some module => return module
  | none => throw (.moduleNotFound name)

/-- The directory of a module, continued by some parts. -/
def dir (name : String) (parts : List String) : Tooling String := do
  let module ← executor.get name
  if module.dir.isEmpty then throw (.noModuleDirectory name)
  return parts.foldl Path.join module.dir

/-- The package with some parts below a module. -/
def target (parts : List String) : String :=
  if parts.isEmpty then "." else "./" ++ "/".intercalate parts

/-- Build a package of a module.  The module is copied first, so that tidying never touches the
module itself. -/
def build (output name : String) (parts : List String) : Tooling Unit := do
  let source ← executor.dir name []
  let built ← Machine.withTemporary "build" fun place => do
    let depth := (← MonadState.get).files.entries.length + 1
    let work : Tooling Unit := do
      Copy.directory depth source place
      let builder : Builder :=
        { directory := some (Machine.pathOf place), tidy := true, binary := executor.binary }
      builder.build (target parts) output {}
    ExceptT.run work
  match built with
  | none => throw .noTemporaryDirectory
  | some result => ExceptT.mk (pure result)

end Executor

end Reconciler
