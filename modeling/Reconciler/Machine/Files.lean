import Reconciler.Machine.Path
/-!
The files of a machine: a list of places with what is there.  A place is the list of the names that
lead to it from the root.
-/
namespace Reconciler

/-- The answer of a scripted program to commands that begin with some arguments. -/
structure Reply where
  arguments : String
  /-- Whether the program notes the files below the directory that it runs in. -/
  lists : Bool := false
  stdout : String := ""
  stderr : String := ""
  status : Nat := 0
deriving DecidableEq

/-- A program. -/
inductive Program where
  | shell
  | utility (name : String)
  /-- A program that notes how it is called and answers as it is told to. -/
  | scripted (replies : List Reply)
deriving DecidableEq

/-- What is at a place. -/
inductive Entry where
  | file (octets : List UInt8) (mode : Nat)
  | directory
  | link (target : String)
  /-- A device that swallows what it is given and has nothing to give. -/
  | sink
  | program (program : Program)
deriving DecidableEq

/-- A place: the names that lead to it from the root. -/
abbrev Place := List String

/-- The files of a machine. -/
structure Files where
  entries : List (Place × Entry) := []

namespace Files

/-- What is at a place; the root is a directory. -/
def get? (files : Files) : Place → Option Entry
  | [] => some .directory
  | place => (files.entries.find? (·.1 = place)).map (·.2)

/-- Put something at a place. -/
def put (files : Files) (place : Place) (entry : Entry) : Files :=
  ⟨files.entries.filter (·.1 ≠ place) ++ [(place, entry)]⟩

/-- Put something at a place, and directories on the way to it. -/
def putDeep (files : Files) (place : Place) (entry : Entry) : Files :=
  let above := (List.range place.length).map place.take
  let addDirectory (files : Files) (dir : Place) : Files :=
    if (files.get? dir).isNone then files.put dir .directory else files
  (above.foldl addDirectory files).put place entry

/-- Remove what is at a place and below it. -/
def remove (files : Files) (place : Place) : Files :=
  ⟨files.entries.filter fun entry => !place.isPrefixOf entry.1⟩

/-- The names in a directory with what is there. -/
def children (files : Files) (place : Place) : List (String × Entry) :=
  files.entries.filterMap fun (other, entry) =>
    match other.getLast? with
    | some name => if other.dropLast = place then some (name, entry) else none
    | none => none

/-- How many links may lead from one to the next. -/
def maxLinks : Nat := 40

/-- Go from a directory along names, following links; the last name need not exist, and a link
there is followed only if `following` says so. -/
def walk (files : Files) (following : Bool) :
    Nat → Nat → Place → List String → Except SystemError Place
  | 0, _, _, _ => .error .tooManyLinks
  | _, _, place, [] => .ok place
  | fuel + 1, links, place, name :: rest =>
    if name = "" || name = "." then walk files following fuel links place rest
    else if name = ".." then walk files following fuel links place.dropLast rest
    else if 255 < name.utf8ByteSize then .error .nameTooLong
    else
      let next := place ++ [name]
      match files.get? next with
      | none => if rest.all (·.isEmpty) then .ok next else .error .notFound
      | some .directory => walk files following fuel links next rest
      | some (.link target) =>
        if rest.isEmpty && !following then .ok next
        else if links = 0 then .error .tooManyLinks
        else walk files following fuel (links - 1) (if Path.isAbsolute target then [] else place)
          (target.splitOn "/" ++ rest)
      | some _ => if rest.isEmpty then .ok next else .error .notADirectory

/-- The place that a path leads to from a directory. -/
def locate (files : Files) (following : Bool) (current : Place) (path : String) :
    Except SystemError Place :=
  if path.isEmpty then .error .notFound
  else if path.contains '\x00' then .error .zeroInName
  else if 4095 < path.utf8ByteSize then .error .nameTooLong
  else files.walk following 5000 maxLinks (if Path.isAbsolute path then [] else current)
    (path.splitOn "/")

/-- What a path leads to, with its place. -/
def find (files : Files) (current : Place) (path : String) :
    Except SystemError (Place × Entry) := do
  let place ← files.locate true current path
  match files.get? place with
  | some entry => return (place, entry)
  | none => throw .notFound

/-- The content of the file that a path leads to. -/
def read (files : Files) (current : Place) (path : String) : Except SystemError (List UInt8) := do
  match ← files.find current path with
  | (_, .file octets _) => return octets
  | (_, .directory) => throw .isADirectory
  | _ => return []

/-- The directory that a path leads to, with the names in it. -/
def list (files : Files) (current : Place) (path : String) :
    Except SystemError (List (String × Entry)) := do
  match ← files.find current path with
  | (place, .directory) => return files.children place
  | _ => throw .notADirectory

/-- The regular files at or below a place: the names that lead to them from there, and their
modes. -/
def regularBelow (files : Files) (place : Place) : List (Place × Nat) :=
  files.entries.filterMap fun (other, entry) =>
    match entry with
    | .file _ mode => if place.isPrefixOf other then some (other.drop place.length, mode) else none
    | _ => none

end Files

end Reconciler
