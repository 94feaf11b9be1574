/-!
Failures that the operating system reports, or that are found before it is asked.
-/
namespace Reconciler

/-- Why an operation on files or programs fails. -/
inductive SystemError where
  | notFound
  | permissionDenied
  | notADirectory
  | isADirectory
  | nameTooLong
  | tooManyLinks
  | invalidUtf8
  /-- A file name with a zero character. -/
  | zeroInName
  /-- An argument of a program with a zero character. -/
  | zeroInArgument
  /-- An empty path names no place. -/
  | emptyPath
  /-- Only regular files can be copied. -/
  | notAFile
deriving DecidableEq, Repr

/-- The text of a failure, with its number if it has one. -/
def SystemError.message : SystemError → String
  | .notFound => "No such file or directory (os error 2)"
  | .permissionDenied => "Permission denied (os error 13)"
  | .notADirectory => "Not a directory (os error 20)"
  | .isADirectory => "Is a directory (os error 21)"
  | .nameTooLong => "File name too long (os error 36)"
  | .tooManyLinks => "Too many levels of symbolic links (os error 40)"
  | .invalidUtf8 => "stream did not contain valid UTF-8"
  | .zeroInName => "file name contained an unexpected NUL byte"
  | .zeroInArgument => "nul byte found in provided data"
  | .emptyPath => "cannot make an empty path absolute"
  | .notAFile => "the source path is neither a regular file nor a symlink to a regular file"

end Reconciler
