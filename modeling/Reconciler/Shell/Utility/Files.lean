import Reconciler.Shell.Utility.Basic
/-!
Programs that list and change files, and ones that take paths apart.
-/
namespace Reconciler.Shell

namespace Utility

/-- The last name of a path, perhaps without an ending. -/
def basename (arguments : List String) : Written :=
  match arguments with
  | [] => fail "basename: missing operand" 1
  | path :: rest =>
    let name := ((path.splitOn "/").filter (!·.isEmpty)).getLastD (if path.isEmpty then "" else "/")
    let suffix := rest.headD ""
    putText ((if name.endsWith suffix && name ≠ suffix then (name.dropEnd suffix.length).toString
      else name) ++ "\n")

/-- The path of the directory that a path is in. -/
def dirname (arguments : List String) : Written :=
  let above (path : String) : String :=
    let names := (path.splitOn "/").filter (!·.isEmpty)
    let joined := "/".intercalate names.dropLast
    if path.startsWith "/" then "/" ++ joined else if joined.isEmpty then "." else joined
  putText ("".intercalate (arguments.map fun path => above path ++ "\n"))

variable (machine : Machine) (directory : Place)

/-- The names in a directory. -/
def ls (arguments : List String) : Written :=
  let options := arguments.filter (·.startsWith "-")
  let hidden := options.any fun option => option.contains 'a'
  let path := (arguments.find? fun path => !path.startsWith "-").getD "."
  match machine.files.find directory path with
  | .error error =>
    fail ("ls: cannot access '" ++ path ++ "': " ++ reason error) 2
  | .ok (place, .directory) =>
    let names := ((machine.files.children place).map (·.1)).filter fun name =>
      hidden || !name.startsWith "."
    let sorted := names.mergeSort fun a b => a ≤ b
    let all := if hidden then "." :: ".." :: sorted else sorted
    putText ("".intercalate (all.map (· ++ "\n")))
  | .ok _ => putText (path ++ "\n")

/-- Change the files for every operand, one after the other. -/
def changing (change : Files → String → Except String Files) (operands : List String) : Written :=
  let (files, complaints) := operands.foldl (fun (files, complaints) operand =>
    match change files operand with
    | .ok files => (files, complaints)
    | .error complaint => (files, complaints ++ [complaint])) (machine.files, ([] : List String))
  { both [] complaints with files := some files }

/-- Make directories. -/
def mkdir (arguments : List String) : Written :=
  let (options, paths) := splitOptions arguments
  changing machine (fun files path =>
    let failing (error : SystemError) : String :=
      "mkdir: cannot create directory ‘" ++ path ++ "’: " ++ reason error
    if hasOption options 'p' then
      .ok (files.putDeep ((if Path.isAbsolute path then [] else directory) ++ Path.names path)
        .directory)
    else
      match files.locate true directory path with
      | .error error => .error (failing error)
      | .ok place =>
        if (files.get? place).isSome then
          .error ("mkdir: cannot create directory ‘" ++ path ++ "’: File exists")
        else .ok (files.put place .directory)) paths

/-- Make sure that files are there. -/
def touch (arguments : List String) : Written :=
  changing machine (fun files path =>
    match files.locate true directory path with
    | .error error => .error ("touch: cannot touch '" ++ path ++ "': " ++ reason error)
    | .ok place =>
      .ok (if (files.get? place).isSome then files else files.put place (.file [] 0o644)))
    (splitOptions arguments).2

/-- Remove files, and directories too if that is asked for. -/
def rm (arguments : List String) : Written :=
  let (options, paths) := splitOptions arguments
  changing machine (fun files path =>
    let failing (reason : String) : String := "rm: cannot remove '" ++ path ++ "': " ++ reason
    match files.locate false directory path with
    | .error error => if hasOption options 'f' then .ok files else .error (failing (reason error))
    | .ok place =>
      match files.get? place with
      | none =>
        if hasOption options 'f' then .ok files else .error (failing (reason .notFound))
      | some .directory =>
        if hasOption options 'r' then .ok (files.remove place)
        else .error (failing (reason .isADirectory))
      | some _ => .ok (files.remove place)) paths

/-- Copy or move a file. -/
def copy (moving : Bool) (name : String) (arguments : List String) : Written :=
  match (splitOptions arguments).2 with
  | [source, target] =>
    changing machine (fun files source =>
      match files.find directory source, files.locate true directory target with
      | .ok (found, .file octets mode), .ok place =>
        let place := match files.get? place with
          | some .directory => place ++ [found.getLastD ""]
          | _ => place
        .ok ((if moving then files.remove found else files).put place (.file octets mode))
      | .ok (_, .directory), .ok _ =>
        .error (name ++ ": -r not specified; omitting directory '" ++ source ++ "'")
      | .error error, _ => .error (name ++ ": cannot stat '" ++ source ++ "': " ++ reason error)
      | _, .error error =>
        .error (name ++ ": cannot create regular file '" ++ target ++ "': " ++ reason error)
      | _, _ => .ok files) [source]
  | _ => fail (name ++ ": missing file operand") 1

end Utility

end Reconciler.Shell
