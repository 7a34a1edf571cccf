/-!
# File faults

Why a file could not be read or written, or a program not be started. Most faults are those of the
operating system and carry its number; the others are found before it is asked or after it has
answered.
-/

set_option autoImplicit false

namespace TestPlanner

/-- Why a file could not be read, written or run. -/
inductive FileFault where
  | notFound
  | notDirectory
  | isDirectory
  | exists
  | denied
  | nameTooLong
  | nullInName
  /-- a null character in the name of a program, an argument or a directory -/
  | nullInCall
  | notText
  deriving DecidableEq, Repr, Inhabited

namespace FileFault

/-- The fault in words. -/
def message : FileFault → String
  | .notFound => "No such file or directory (os error 2)"
  | .denied => "Permission denied (os error 13)"
  | .exists => "File exists (os error 17)"
  | .notDirectory => "Not a directory (os error 20)"
  | .isDirectory => "Is a directory (os error 21)"
  | .nameTooLong => "File name too long (os error 36)"
  | .nullInName => "file name contained an unexpected NUL byte"
  | .nullInCall => "nul byte found in provided data"
  | .notText => "stream did not contain valid UTF-8"

end FileFault

end TestPlanner
