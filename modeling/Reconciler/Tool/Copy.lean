import Reconciler.Tool.Command
/-!
Copying directories.  Files that only can be read become writable for their owner.
-/
namespace Reconciler.Copy

/-- The mode of the copy of a file: the owner may write it unless somebody else may already. -/
def copiedMode (mode : Nat) : Nat :=
  if mode &&& 0o222 = 0 then mode ||| 0o200 else mode

/-- Copy the file that a path leads to. -/
def file (path : String) (target : Place) : Tooling Unit := do
  let machine ← get
  match ← Tooling.ofFiles path (machine.files.find machine.directory path) with
  | (_, .file octets mode) =>
    set { machine with files := machine.files.put target (.file octets (copiedMode mode)) }
  | (_, .program program) =>
    set { machine with files := machine.files.put target (.program program) }
  | _ => throw (.file path .notAFile)

/-- Copy a directory and everything below it; `depth` bounds how deep it is. -/
def directory : Nat → String → Place → Tooling Unit
  | 0, path, _ => throw (.file path .nameTooLong)
  | depth + 1, path, target => do
    modify fun machine =>
      if (machine.files.get? target).isSome then machine
      else { machine with files := machine.files.put target .directory }
    let machine ← get
    let entries ← Tooling.ofFiles path (machine.files.list machine.directory path)
    entries.forM fun (name, entry) =>
      if entry = .directory then directory depth (Path.join path name) (target ++ [name])
      else file (Path.join path name) (target ++ [name])

end Reconciler.Copy
