/-!
# System errors

* `SystemError.message` is the text with the number that the system gives.
-/

namespace Concordance

/-- Why the system refuses to open or read a file. -/
inductive SystemError where
  /-- There is nothing at the path. -/
  | missing
  /-- A file is wanted and there is a directory. -/
  | isDirectory
  /-- A directory is wanted and there is a file. -/
  | notDirectory
  /-- A component of the path is too long. -/
  | nameTooLong
  /-- The path has a NUL character. -/
  | nulInPath
  /-- Another reason, given by its text. -/
  | other (text : String)
  deriving DecidableEq, Repr

/-- The text of a system error. -/
def SystemError.message : SystemError → String
  | .missing => "No such file or directory (os error 2)"
  | .isDirectory => "Is a directory (os error 21)"
  | .notDirectory => "Not a directory (os error 20)"
  | .nameTooLong => "File name too long (os error 36)"
  | .nulInPath => "file name contained an unexpected NUL byte"
  | .other text => text

end Concordance
