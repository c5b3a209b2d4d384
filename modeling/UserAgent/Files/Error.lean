import UserAgent.Path
import UserAgent.Text.Quoted

/-!
# Failures of file operations
-/

namespace UserAgent

/-- Why a file operation fails. -/
inductive FileCause where
  | notFound
  | alreadyExists
  | notDirectory
  | isDirectory
deriving DecidableEq, Repr

namespace FileCause

/-- The number that the operating system gives to a cause. -/
def number : FileCause → Nat
  | notFound => 2
  | alreadyExists => 17
  | notDirectory => 20
  | isDirectory => 21

/-- The words for a cause. -/
def message : FileCause → String
  | notFound => "No such file or directory"
  | alreadyExists => "File exists"
  | notDirectory => "Not a directory"
  | isDirectory => "Is a directory"

end FileCause

/-- The failure of an operation on a path. -/
structure FileError where
  cause : FileCause
  path : Path
deriving DecidableEq, Repr

/-- The words for a failure. -/
def FileError.message (e : FileError) : String :=
  "[Errno " ++ toString e.cause.number ++ "] " ++ e.cause.message ++ ": " ++
    Text.quoted e.path.toText

end UserAgent
