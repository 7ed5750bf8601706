import Maildrop.DiskError
import Maildrop.Program
import Maildrop.Text.Utf8
import Maildrop.Time

/-!
# The calls of a host

What a program needs of the machine it runs on: files, the data that are fed to it, and
the time.
-/

namespace Maildrop.Host

/-- **A call.** -/
inductive Call where
  /-- The octets of a file. -/
  | read (path : String)
  /-- Make a file, or replace what it holds. -/
  | write (path : String) (content : Bytes)
  /-- Remove a file. -/
  | remove (path : String)
  /-- Whether a path leads to something. -/
  | present (path : String)
  /-- Make a directory and those around it, as far as they are missing. -/
  | makeDirectories (path : String)
  /-- The data that are fed to the program. -/
  | input
  /-- The time. -/
  | now
  deriving DecidableEq, Repr

/-- What a call gives. -/
abbrev Call.Result : Call → Type
  | .read _ => Except DiskError Bytes
  | .write _ _ => Except DiskError Unit
  | .remove _ => Except DiskError Unit
  | .present _ => Bool
  | .makeDirectories _ => Except DiskError Unit
  | .input => Bytes
  | .now => Instant

/-- **A program that runs on a host.** -/
abbrev Client (α : Type) := Program Call Call.Result α

/-- **A program that runs on a host and may fail.** -/
abbrev Action (ε α : Type) := ExceptT ε Client α

namespace Action

variable {ε α : Type}

/-- Writes records in order. -/
def records (rs : List LogRecord) : Action ε Unit := ExceptT.lift (Program.records rs)

/-- Makes a call that cannot fail. -/
def ask (c : Call) : Action ε c.Result := ExceptT.lift (Program.ask c)

/-- Goes on with what a call gives, or fails in the words of the caller. -/
def check (onFailure : DiskError → ε) (r : Except DiskError α) : Action ε α :=
  ExceptT.mk (.done (r.mapError onFailure))

/-- Goes on with a result. -/
def lift (r : Except ε α) : Action ε α := ExceptT.mk (.done r)

/-- The octets of a file. -/
def read (path : String) (onFailure : DiskError → ε) : Action ε Bytes := do
  check onFailure (← ask (.read path))

/-- Makes a file, or replaces what it holds. -/
def write (path : String) (content : Bytes) (onFailure : DiskError → ε) : Action ε Unit := do
  check onFailure (← ask (.write path content))

/-- Makes a directory and those around it. -/
def makeDirectories (path : String) (onFailure : DiskError → ε) : Action ε Unit := do
  check onFailure (← ask (.makeDirectories path))

/-- The text of a file. -/
def readText (path : String) (onFailure : DiskError → ε) : Action ε Text := do
  let content ← read path onFailure
  match Utf8.decode? content with
  | some t => pure t
  | none => throw (onFailure .notText)

end Action

end Maildrop.Host
