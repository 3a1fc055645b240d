/-!
# Failures of file operations

The system names a failure by a number, of which the ones that can occur here have a constructor.
A path that holds the character zero never reaches the system.
-/

namespace Registrar

/-- Why a file operation fails. -/
inductive FileError where
  | notFound
  | notDirectory
  | isDirectory
  | nameTooLong
  | alreadyExists
  /-- The path holds the character zero, so no system call is made. -/
  | zeroInPath
  deriving DecidableEq, Repr

namespace FileError

/-- The system's words for a failure. -/
def reason : FileError → String
  | notFound => "No such file or directory"
  | notDirectory => "Not a directory"
  | isDirectory => "Is a directory"
  | nameTooLong => "File name too long"
  | alreadyExists => "File exists"
  | zeroInPath => "embedded null byte"

/-- The system reported the failure. -/
def isSystem (e : FileError) : Bool :=
  e ≠ zeroInPath

end FileError

end Registrar
