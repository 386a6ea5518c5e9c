/-!
# ScoreKeeper — operating-system errors

The failures that files and sockets report, each with its POSIX number and the system's wording;
`other` is a failure raised by the program itself, shown by its message alone.
-/

namespace ScoreKeeper

/-- A failure reported by the operating system. -/
inductive OsError where
  | notFound
  | permissionDenied
  | alreadyExists
  | notADirectory
  | isADirectory
  | addrInUse
  | addrNotAvailable
  | networkUnreachable
  | connectionRefused
  | other (message : String)
  deriving DecidableEq, Repr

/-- The error number and the system's wording, or the message of a program's own failure. -/
def OsError.message : OsError → String
  | .notFound => "No such file or directory (os error 2)"
  | .permissionDenied => "Permission denied (os error 13)"
  | .alreadyExists => "File exists (os error 17)"
  | .notADirectory => "Not a directory (os error 20)"
  | .isADirectory => "Is a directory (os error 21)"
  | .addrInUse => "Address already in use (os error 98)"
  | .addrNotAvailable => "Cannot assign requested address (os error 99)"
  | .networkUnreachable => "Network is unreachable (os error 101)"
  | .connectionRefused => "Connection refused (os error 111)"
  | .other m => m

end ScoreKeeper
