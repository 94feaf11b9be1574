import Reconciler.Json.Decode
import Reconciler.Json.Reader
import Reconciler.Time.Rfc3339
/-!
Modules as the tool `go` lists them: a stream of JSON objects.  A module may also be written as the
list of its fields in order.
-/
namespace Reconciler

/-- A module. -/
structure GoModule where
  path : String := ""
  version : String := ""
  /-- The module that takes its place. -/
  replace : Option GoModule := none
  time : Option Instant := none
  indirect : Bool := false
  main : Bool := false
  dir : String := ""
  goMod : String := ""
  goVersion : String := ""
deriving Inhabited

namespace GoModule

/-- The names of the fields, in order. -/
def fieldNames : List String :=
  ["Path", "Version", "Replace", "Time", "Indirect", "Main", "Dir", "GoMod", "GoVersion"]

/-- The fields of a module in order, as far as they are written; none may be written twice. -/
def fields? : Json → Option (List (Option Json))
  | .obj fields =>
    fieldNames.mapM fun name =>
      match fields.filter (·.1 = name) with
      | [] => some none
      | [field] => some (some field.2)
      | _ => none
  | .arr items =>
    if items.length ≤ fieldNames.length then
      some (items.map some ++ List.replicate (fieldNames.length - items.length) none)
    else none
  | _ => none

/-- A field, or its default where it is not written. -/
def field? {α : Type} (decode : Json → Option α) (default : α) : Option Json → Option α
  | none => some default
  | some value => decode value

/-- A field that may be null. -/
def nullable? {α : Type} (decode : Json → Option α) : Option Json → Option (Option α)
  | none | some .null => some none
  | some value => (decode value).map some

/-- Read a module; `depth` bounds how many modules take each other's place. -/
def decodeTo? : Nat → Json → Option GoModule
  | 0, _ => none
  | depth + 1, json => do
    match ← fields? json with
    | [path, version, replace, time, indirect, main, dir, goMod, goVersion] =>
      return {
        path := ← field? Json.asString? "" path
        version := ← field? Json.asString? "" version
        replace := ← nullable? (decodeTo? depth) replace
        time := ← nullable? (fun value => value.asString?.bind Rfc3339.parseRelaxed?) time
        indirect := ← field? Json.asBool? false indirect
        main := ← field? Json.asBool? false main
        dir := ← field? Json.asString? "" dir
        goMod := ← field? Json.asString? "" goMod
        goVersion := ← field? Json.asString? "" goVersion }
    | _ => none

/-- Read the modules of a stream. -/
def ofStream? (text : String) : Option (List GoModule) := do
  (← Json.stream? text).mapM (decodeTo? (Json.Reader.maxDepth + 1))

/-- The JSON form of a module, given that of the one that takes its place. -/
def toJsonWith (module : GoModule) (replacement : Json) : Json :=
  .ofFields [
    ("path", .str module.path),
    ("version", .str module.version),
    ("replace", replacement),
    ("time", (module.time.map fun t => Json.str (Rfc3339.write 9 t)).getD .null),
    ("indirect", .bool module.indirect),
    ("main", .bool module.main),
    ("dir", .str module.dir),
    ("goMod", .str module.goMod),
    ("goVersion", .str module.goVersion)]

/-- The JSON form of a module. -/
def toJson : GoModule → Json
  | ⟨path, version, none, time, indirect, main, dir, goMod, goVersion⟩ =>
    toJsonWith ⟨path, version, none, time, indirect, main, dir, goMod, goVersion⟩ .null
  | ⟨path, version, some other, time, indirect, main, dir, goMod, goVersion⟩ =>
    toJsonWith ⟨path, version, none, time, indirect, main, dir, goMod, goVersion⟩ (toJson other)

end GoModule

end Reconciler
