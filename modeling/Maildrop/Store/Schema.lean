import Maildrop.Store.Database

/-!
# Versions of a database

A database keeps the version of its schema, and opening one brings it up to date. The
first version had messages without a size and a time of arrival; their rows get the
defaults of the columns that were added later. A database of a later version than this
one is refused.
-/

namespace Maildrop.Store

/-- **A row of the first version's table of messages.** -/
structure FirstRow where
  rowid : Nat
  id : String
  senderId : Int
  subjectPreview : String
  bodyPreview : String
  payload : Payload
  deriving DecidableEq, Repr

/-- **The tables of the first version.** -/
structure FirstTables where
  addresses : List Address
  lastAddress : Nat
  messages : List FirstRow
  deriving DecidableEq, Repr

/-- **A database that nothing has open.** -/
inductive DatabaseFile where
  /-- Nothing has been written yet. -/
  | blank
  /-- The first version. -/
  | first (tables : FirstTables)
  /-- The version that this one writes, or a later one. -/
  | later (database : Database)
  deriving DecidableEq, Repr

/-- The version of the schema that this library writes. -/
def schemaVersion : Nat := 2

/-- A row with the columns that were added later. -/
def FirstRow.migrate (r : FirstRow) : MessageRow where
  rowid := r.rowid
  id := r.id
  senderId := r.senderId
  subjectPreview := r.subjectPreview
  bodyPreview := r.bodyPreview
  payload := r.payload
  size := 0
  receivedAt := some 0

/-- The tables with the columns that were added later. -/
def FirstTables.migrate (t : FirstTables) : Tables where
  addresses := t.addresses
  lastAddress := t.lastAddress
  messages := t.messages.map FirstRow.migrate

/-- The database of a file, brought up to date. -/
def DatabaseFile.migrate : DatabaseFile → Except Failure Database
  | .blank => .ok { schema := schemaVersion, tables := some {} }
  | .first t => .ok { schema := schemaVersion, tables := some t.migrate }
  | .later d => if schemaVersion < d.schema then .error ⟨.tooNew, [.migrate]⟩ else .ok d

/-- **Opens a database** that a path names. -/
def DatabaseFile.openAt (f : DatabaseFile) (path : String) :
    Except Failure Database × List LogRecord :=
  match f.migrate with
  | .ok d => (.ok d, [.info ("Opened mail store at " ++ path)])
  | .error e => (.error e, [])

/-- **Closes a database.** -/
def Database.close (d : Database) : DatabaseFile × List LogRecord :=
  (.later d, [.info "Closed mail store"])

end Maildrop.Store
