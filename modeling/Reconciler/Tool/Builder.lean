import Reconciler.Tool.Command
/-!
Building packages with the tool `go`.
-/
namespace Reconciler

/-- How a build treats the files that describe the module. -/
inductive ModMode where
  | mod
  | readonly
  | vendor
deriving DecidableEq, Repr

namespace ModMode

/-- The name of a mode. -/
def name : ModMode → String
  | .mod => "mod"
  | .readonly => "readonly"
  | .vendor => "vendor"

/-- The mode with a name. -/
def ofName? (name : String) : Option ModMode :=
  [mod, readonly, vendor].find? fun mode => mode.name = name

end ModMode

/-- How a package is built. -/
structure BuildOptions where
  modMode : Option ModMode := none
  /-- Build also what is up to date. -/
  force : Bool := false

/-- A builder of packages. -/
structure Builder where
  /-- The directory to work in, the current one if unset. -/
  directory : Option String := none
  /-- Whether the module is tidied first. -/
  tidy : Bool := false
  binary : String := "go"

namespace Builder

/-- The arguments for building a package. -/
def arguments (output target : String) (options : BuildOptions) : List String :=
  ["build", "-o", output] ++
    (options.modMode.map fun mode => ["-mod", mode.name]).getD [] ++
    (if options.force then ["-a"] else []) ++ [target]

/-- Build a package.  A relative output is meant from the current directory, not from that of the
builder. -/
def build (builder : Builder) (target output : String) (options : BuildOptions) : Tooling Unit := do
  if builder.tidy then Tooling.run builder.directory builder.binary ["mod", "tidy"]
  let current := Machine.pathOf (← get).directory
  let output ← Tooling.ofFiles output (Path.absolute current output)
  Tooling.run builder.directory builder.binary (arguments output target options)

end Builder

end Reconciler
