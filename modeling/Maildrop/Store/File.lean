import Maildrop.Host.Call
import Maildrop.Store.Location
import Maildrop.Store.Snapshot

/-!
# Databases in files

A database is opened from a file, which is made if it is missing together with the
directories around it, and is written back when the database is closed. A database in
memory is kept nowhere.

The directories are those around the path as it stands, also where that is a URI. If one of the
detours of its path leads through a file, a database cannot be opened. Beside the file of a
database there are three more that belong to it for as long as it is open: what stands there
before is lost, whatever it is.
-/

namespace Maildrop.Store.Database

/-- Makes the directory in which a database is kept. -/
def makeDirectory (path : String) : Host.Action Failure Unit :=
  match Path.parent? path with
  | some "" | none => pure ()
  | some directory =>
    if directory.toList.contains '\x00' then
      throw ⟨.disk .embeddedNul, [.createDirectory directory]⟩
    else Host.Action.makeDirectories directory fun e => ⟨.disk e, [.createDirectory directory]⟩

/-- The failure to open a file as a database. -/
def unopenable (path : String) : Failure := ⟨.unopenable path, [.openDatabase path]⟩

/-- The octets of the file of a database. One that is missing is made, and is empty. -/
def contentOf (path : String) : Except DiskError Bytes → Except Failure Bytes
  | .ok content => .ok content
  | .error .missing => .ok []
  | .error _ => .error (unopenable path)

/-- The database that the octets of a file are. -/
def ofOctets (content : Bytes) : Except Failure DatabaseFile :=
  match DatabaseFile.ofOctets? content with
  | some f => .ok f
  | none => .error ⟨.notDatabase, []⟩

/-- What the names of the files end in that belong to the file of an open database. -/
def endings : List String := ["-journal", "-wal", "-shm"]

/-- Removes the files whose names have one of the given endings behind a name. -/
def sweep (name : String) : List String → Host.Action Failure Unit
  | [] => pure ()
  | ending :: endings => do
    let _ ← Host.Action.ask (.remove (name ++ ending))
    sweep name endings

/-- A detour is gone, unless it leads through a file. -/
def passed (path : String) : Except DiskError Bytes → Except Failure Unit
  | .error .notDirectory => .error (unopenable path)
  | _ => .ok ()

/-- Goes the detours of a path. -/
def goAround (path : String) : List String → Host.Action Failure Unit
  | [] => pure ()
  | detour :: detours => do
    let found ← Host.Action.ask (.read detour)
    Host.Action.lift (passed path found)
    goAround path detours

/-- Reads a database from its file. -/
def readFile (path : String) : Host.Action Failure DatabaseFile :=
  match location path with
  | .error cause => throw ⟨cause, [.openDatabase path]⟩
  | .ok .special => throw (unopenable path)
  | .ok .memory => pure .blank
  | .ok (.file name detours) => do
    goAround path detours
    let content ← Host.Action.ask (.read name)
    let octets ← Host.Action.lift (contentOf path content)
    sweep name endings
    Host.Action.lift (ofOctets octets)

/-- Writes a database into its file. -/
def writeFile (path : String) (f : DatabaseFile) : Host.Action Failure Unit :=
  match fileOf? path with
  | none => pure ()
  | some name => Host.Action.write name f.octets fun _ => unopenable path

/-- **Opens the database in a file.** -/
def openFile (path : String) : Host.Action Failure Database := do
  makeDirectory path
  let file ← readFile path
  let opened := file.openAt path
  let d ← Host.Action.lift opened.1
  writeFile path (.later d)
  Host.Action.records opened.2
  pure d

/-- **Closes the database in a file.** -/
def closeFile (path : String) (d : Database) : Host.Action Failure Unit := do
  writeFile path d.close.1
  Host.Action.records d.close.2

/-- What a client gets from an open database, and the database afterwards. -/
def serve {ε α : Type} (d : Database) (c : Client α) : Host.Action ε (α × Database) := do
  let r := c.run backend d
  Host.Action.records r.log
  pure (r.value, r.state)

end Maildrop.Store.Database
