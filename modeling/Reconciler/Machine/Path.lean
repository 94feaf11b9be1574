import Reconciler.SystemError
/-!
Paths: names separated by slashes.
-/
namespace Reconciler.Path

/-- Whether a path begins at the root. -/
def isAbsolute (path : String) : Bool :=
  path.startsWith "/"

/-- Continue a path with another one; an absolute one starts anew. -/
def join (base path : String) : String :=
  if isAbsolute path || base.isEmpty then path
  else if base.endsWith "/" then base ++ path
  else base ++ "/" ++ path

/-- The path of the directory that a path is in, as it is written. -/
def parent (path : String) : String :=
  let above := "/".intercalate (path.splitOn "/").dropLast
  if above.isEmpty && isAbsolute path then "/" else above

/-- The names of a path, as far as they lead somewhere. -/
def names (path : String) : List String :=
  (path.splitOn "/").filter fun name => name ≠ "" && name ≠ "."

/-- The absolute form of a path, given the current directory.  Names that lead up stay, two leading
slashes are kept apart from one, and a slash at the end stays. -/
def absolute (current path : String) : Except SystemError String :=
  if path.isEmpty then .error .emptyPath
  else
    let root :=
      if path.startsWith "//" && !path.startsWith "///" then "//"
      else if isAbsolute path then "/"
      else current
    let joined := (names path).foldl join root
    .ok (if path.endsWith "/" then join joined "" else joined)

end Reconciler.Path
