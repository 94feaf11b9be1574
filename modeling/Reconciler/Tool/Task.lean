import Reconciler.Json.Lenient
import Reconciler.Tool.Executor
/-!
Tasks for the tool `go`: what is asked for with settings, and how it is done.
-/
namespace Reconciler

/-- A task. -/
inductive GoTask where
  | list
  | get (name : String)
  | dir (name : String) (parts : List String)
  | build (output name : String) (parts : List String)
  /-- Build without asking for a module first. -/
  | package (builder : Builder) (target output : String) (options : BuildOptions)

namespace GoTask

/-- Why settings describe no task. -/
inductive FormError where
  | unknown
  | badModMode
deriving DecidableEq

/-- The task with settings; `binary` is the tool, and `tools` the directory that it is in. -/
def ofJson (binary tools : String) (json : Json) : Except FormError GoTask :=
  let name := json.text "name"
  let parts := json.texts "parts"
  match json.text "do" with
  | "list" => .ok .list
  | "get" => .ok (.get name)
  | "dir" => .ok (.dir name parts)
  | "build" => .ok (.build (json.text "output") name parts)
  | "builder" =>
    let builder : Builder :=
      { binary, tidy := json.flag "tidy"
        directory := if json.flag "inTools" then some tools else none }
    let package (modMode : Option ModMode) : GoTask :=
      .package builder (json.text "target") (json.text "output")
        { modMode, force := json.flag "force" }
    match json.text? "modMode" with
    | none => .ok (package none)
    | some mode => (ModMode.ofName? mode).elim (.error .badModMode) fun mode =>
        .ok (package (some mode))
  | _ => .error .unknown

/-- Do a task: what it brings, as JSON. -/
def perform (executor : Executor) : GoTask → Tooling Json
  | .list => do return .arr ((← executor.list).map GoModule.toJson)
  | .get name => do return (← executor.get name).toJson
  | .dir name parts => do return .str (← executor.dir name parts)
  | .build output name parts => do
    executor.build output name parts
    return .null
  | .package builder target output options => do
    builder.build target output options
    return .null

end GoTask

end Reconciler
