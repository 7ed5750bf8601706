import Maildrop.CommandLine.Run
import Std.Time.DateTime.Timestamp

/-!
# The program

Runs a command line on this machine: its files, its input and its clock answer the calls
of the command, and records go to standard error.
-/

namespace Maildrop.Machine

/-- Why the file system refuses. -/
def reasonOf (path : String) (e : IO.Error) : IO DiskError := do
  let file := System.mkFilePath [path]
  if ← file.isDir then
    return .isDirectory
  match e with
  | .noFileOrDirectory .. => return .missing
  | .alreadyExists .. => return if ← file.pathExists then .occupied else .notDirectory
  | .inappropriateType .. | .noSuchThing .. => return .notDirectory
  | _ => return .denied

/-- What the file system gives, or why it refuses. -/
def attempt {α : Type} (path : String) (act : IO α) : IO (Except DiskError α) := do
  try
    return .ok (← act)
  catch e =>
    return .error (← reasonOf path e)

/-- Reads a stream to its end. -/
partial def readAll (stream : IO.FS.Stream) (octets : ByteArray) : IO ByteArray := do
  let more ← stream.read 65536
  if more.isEmpty then return octets else readAll stream (octets ++ more)

/-- Octets as the machine handles them. -/
def packed (s : Bytes) : ByteArray := ⟨s.toArray⟩

/-- Answers a call. -/
def answer : (c : Host.Call) → IO c.Result
  | .read path => attempt path do return (← IO.FS.readBinFile path).toList
  | .write path content => attempt path (IO.FS.writeBinFile path (packed content))
  | .remove path => attempt path (IO.FS.removeFile path)
  | .present path => (System.mkFilePath [path]).pathExists
  | .makeDirectories path => attempt path (IO.FS.createDirAll path)
  | .input => return (← readAll (← IO.getStdin) .empty).toList
  | .now => return (← Std.Time.Timestamp.now).toSecondsSinceUnixEpoch.toInt.toNat

/-- Runs a program. Records of detail are dropped. -/
def run {α : Type} : Host.Client α → IO α
  | .done a => return a
  | .log r next => do
    if r.level ≠ .debug then
      IO.eprintln r.line
    run next
  | .call c next => do
    let x ← answer c
    run (next x)

/-- The user's directory for settings of all kinds. -/
def settingsRoot : IO String := do
  match ← IO.getEnv "XDG_CONFIG_HOME" with
  | some root => if Path.isAbsolute root then return root else atHome
  | none => atHome
where
  atHome : IO String := return Path.join ((← IO.getEnv "HOME").getD "/") ".config"

/-- The environment of the command line. -/
def environment : IO CommandLine.Environment := do
  return {
    settingsRoot := ← settingsRoot
    config := ← IO.getEnv "MAILSINK_CONFIG"
    overrides :=
      ⟨← IO.getEnv "MAILSINK_DATABASE", ← IO.getEnv "MAILSINK_COMPRESSION_LEVEL"⟩ }

end Maildrop.Machine

open Maildrop in
/-- **The program.** -/
def main (arguments : List String) : IO UInt32 := do
  let report ← Machine.run (CommandLine.run .calendar (← Machine.environment) arguments)
  let out ← IO.getStdout
  out.write (Machine.packed report.output)
  out.flush
  if !report.complaint.isEmpty then
    IO.eprintln report.complaint
  return UInt32.ofNat report.code
