import Maildrop.Host.Call
import Maildrop.Host.Path

/-!
# Disks

A disk holds directories and files, each at a *place*: the names that lead to it from
the root. A path is walked part by part, and whatever it leads through has to be a
directory.
-/

namespace Maildrop.Host

/-- **What is at a place.** -/
inductive Node where
  | directory
  | file (content : Bytes)
  deriving DecidableEq, Repr

/-- The names that lead from the root to a place. -/
abbrev Place := List Text

/-- **A disk**, with the directory in which paths start. -/
structure Disk where
  workingDirectory : Place := []
  nodes : List (Place × Node) := []
  deriving DecidableEq, Repr

namespace Disk

/-- What is at a place. The root is always there. -/
def node? (d : Disk) (place : Place) : Option Node :=
  if place = [] then some .directory else d.nodes.lookup place

/-- The disk with something at a place. -/
def put (d : Disk) (place : Place) (node : Node) : Disk :=
  { d with nodes := (place, node) :: d.nodes.filter fun e => e.1 ≠ place }

/-- The disk with nothing at a place. -/
def clear (d : Disk) (place : Place) : Disk :=
  { d with nodes := d.nodes.filter fun e => e.1 ≠ place }

/-- The place to which a part leads. -/
def follow (place : Place) (part : Text) : Place :=
  if Path.isIdle part then place
  else if part = ['.', '.'] then place.dropLast
  else place ++ [part]

/-- The place to which parts lead; nothing needs to be there. -/
def walk (d : Disk) (place : Place) : List Text → Except DiskError Place
  | [] => .ok place
  | part :: parts =>
    match d.node? place with
    | none => .error .missing
    | some (.file _) => .error .notDirectory
    | some .directory => d.walk (follow place part) parts

/-- The place at which a path starts. -/
def start (d : Disk) (path : String) : Place :=
  if Path.isAbsolute path then [] else d.workingDirectory

/-- The place to which a path leads. -/
def resolve (d : Disk) (path : String) : Except DiskError Place :=
  if path.isEmpty then .error .missing else d.walk (d.start path) (Path.parts path.toList)

/-- The octets of a file. -/
def read (d : Disk) (path : String) : Except DiskError Bytes :=
  match d.resolve path with
  | .error e => .error e
  | .ok place =>
    match d.node? place with
    | none => .error .missing
    | some .directory => .error .isDirectory
    | some (.file content) => .ok content

/-- Whether a path leads to something. -/
def present (d : Disk) (path : String) : Bool :=
  match d.resolve path with
  | .error _ => false
  | .ok place => (d.node? place).isSome

/-- The place of a file that a path names. Slashes at the end of the path do not lead
anywhere. -/
def resolveFile (d : Disk) (path : String) : Except DiskError Place :=
  if path.isEmpty then .error .missing
  else d.walk (d.start path) (Path.parts (Path.dropSlashes path.toList))

/-- Makes a file, or replaces what it holds. A slash at the end of a path asks for a
directory. -/
def write (d : Disk) (path : String) (content : Bytes) : Except DiskError Disk :=
  match d.resolveFile path with
  | .error e => .error e
  | .ok place =>
    if path.toList.getLast? = some '/' || d.node? place = some .directory then
      .error .isDirectory
    else .ok (d.put place (.file content))

/-- Removes a file. -/
def remove (d : Disk) (path : String) : Except DiskError Disk :=
  match d.resolve path with
  | .error e => .error e
  | .ok place =>
    match d.node? place with
    | none => .error .missing
    | some .directory => .error .isDirectory
    | some (.file _) => .ok (d.clear place)

/-- Makes directories on the way along parts, as far as they are missing. -/
def makeAlong (d : Disk) (place : Place) : List Text → Except DiskError Disk
  | [] =>
    match d.node? place with
    | some (.file _) => .error .occupied
    | some .directory => .ok d
    | none => .ok (d.put place .directory)
  | part :: parts =>
    match d.node? place with
    | some (.file _) => .error .notDirectory
    | some .directory => d.makeAlong (follow place part) parts
    | none => (d.put place .directory).makeAlong (follow place part) parts

/-- Makes a directory and those around it. -/
def makeDirectories (d : Disk) (path : String) : Except DiskError Disk :=
  if path.isEmpty then .ok d else d.makeAlong (d.start path) (Path.parts path.toList)

/-- The result of a change, and the disk after it: one that fails changes nothing. -/
def changed (d : Disk) (r : Except DiskError Disk) : Except DiskError Unit × Disk :=
  match r with
  | .ok d => (.ok (), d)
  | .error e => (.error e, d)

/-- What a call does. -/
def step (input : Bytes) (clock : Instant) (c : Call) (d : Disk) : Outcome Disk Call.Result c :=
  match c with
  | .read path => ⟨d.read path, d, []⟩
  | .write path content =>
    let r := d.changed (d.write path content)
    ⟨r.1, r.2, []⟩
  | .remove path =>
    let r := d.changed (d.remove path)
    ⟨r.1, r.2, []⟩
  | .present path => ⟨d.present path, d, []⟩
  | .makeDirectories path =>
    let r := d.changed (d.makeDirectories path)
    ⟨r.1, r.2, []⟩
  | .input => ⟨input, d, []⟩
  | .now => ⟨clock, d, []⟩

/-- **A host with a disk**, on which the clock stands still. -/
def host (input : Bytes) (clock : Instant) : Backend Call Call.Result Disk := ⟨step input clock⟩

end Disk

end Maildrop.Host
