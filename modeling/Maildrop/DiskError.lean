/-!
# Errors of the file system
-/

namespace Maildrop

/-- **Why a file cannot be used.** -/
inductive DiskError where
  /-- There is no such file or directory. -/
  | missing
  /-- Access is not allowed. -/
  | denied
  /-- There is one already. -/
  | occupied
  /-- A file stands where a directory is needed. -/
  | notDirectory
  /-- A directory stands where a file is needed. -/
  | isDirectory
  /-- The file holds no text. -/
  | notText
  /-- There is a NUL in the path. -/
  | embeddedNul
  deriving DecidableEq, Repr

/-- The wording of an error. -/
def DiskError.message : DiskError → String
  | .missing => "No such file or directory (os error 2)"
  | .denied => "Permission denied (os error 13)"
  | .occupied => "File exists (os error 17)"
  | .notDirectory => "Not a directory (os error 20)"
  | .isDirectory => "Is a directory (os error 21)"
  | .notText => "stream did not contain valid UTF-8"
  | .embeddedNul => "file name contained an unexpected NUL byte"

end Maildrop
