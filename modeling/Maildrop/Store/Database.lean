import Maildrop.Store.Collation
import Maildrop.Store.Program

/-!
# A store in a database

Two tables of rows. Addresses get numbers that count upwards and are never used again,
not even after a row is gone. Messages get row numbers, each one more than the largest
present, and are listed in their order. Octets are kept packed; what is packed can be
unpacked, unless something has damaged it.

A message refers to its sender, and the database refuses a message whose sender does
not exist. Listings join the two tables, so a message whose sender has been taken out
of the database by other means is not listed, though it is still there.
-/

namespace Maildrop.Store

/-- **Packed octets.** -/
inductive Payload where
  | packed (raw : Bytes)
  /-- Octets that cannot be unpacked any more. -/
  | damaged
  deriving DecidableEq, Repr

/-- The octets that were packed. -/
def Payload.unpack? : Payload → Option Bytes
  | .packed raw => some raw
  | .damaged => none

/-- **A row of the table of messages.** -/
structure MessageRow where
  rowid : Nat
  id : String
  senderId : Int
  subjectPreview : String
  bodyPreview : String
  payload : Payload
  size : Nat
  /-- When the message arrived, if the text of it can be read. -/
  receivedAt : Option Instant
  deriving DecidableEq, Repr

/-- **The tables of a database.** -/
structure Tables where
  addresses : List Address := []
  /-- The largest address number ever used. -/
  lastAddress : Nat := 0
  messages : List MessageRow := []
  deriving DecidableEq, Repr

namespace Tables

/-- The address with an email. -/
def addressByEmail? (t : Tables) (email : String) : Option Address :=
  t.addresses.find? fun a => sameEmail a.email email

/-- The address with a number. -/
def address? (t : Tables) (id : Int) : Option Address := t.addresses.find? fun a => a.id = id

/-- The row of a message. -/
def row? (t : Tables) (id : String) : Option MessageRow := t.messages.find? fun r => r.id = id

/-- Makes an address, unless its email is taken. -/
def create (t : Tables) (email : String) (name : Option String) : Creation × Tables :=
  if (t.addressByEmail? email).isSome then (.taken, t)
  else
    let a : Address := ⟨t.lastAddress + 1, email, name⟩
    (.created a, { t with addresses := t.addresses ++ [a], lastAddress := t.lastAddress + 1 })

/-- The row number of the next message. -/
def nextRow (t : Tables) : Nat := (t.messages.map MessageRow.rowid).foldl max 0 + 1

/-- The row of a new message. -/
def newRow (t : Tables) (m : NewMessage) : MessageRow where
  rowid := t.nextRow
  id := m.id
  senderId := m.senderId
  subjectPreview := m.subjectPreview
  bodyPreview := m.bodyPreview
  payload := .packed m.raw
  size := m.raw.length
  receivedAt := some m.receivedAt

/-- Stores a message, unless its id is in use or its sender does not exist. -/
def insert (t : Tables) (m : NewMessage) : Except Failure Insertion × Tables :=
  if (t.row? m.id).isSome then (.ok .duplicate, t)
  else if (t.address? m.senderId).isNone then
    (.error ⟨.brokenReference, [.createMessage m.id]⟩, t)
  else (.ok .stored, { t with messages := t.messages ++ [t.newRow m] })

/-- Deletes a message. -/
def delete (t : Tables) (id : String) : Tables :=
  { t with messages := t.messages.filter fun r => r.id ≠ id }

/-- The octets of a row. -/
def unpack (r : MessageRow) : Except Failure Bytes :=
  match r.payload.unpack? with
  | some raw => .ok raw
  | none => .error ⟨.undecodable, [.decodeMessage r.id]⟩

/-- When the message of a row arrived. An unreadable time stands for the one at which it is read,
which a store does not know here; it counts as the earliest. -/
def arrival (r : MessageRow) : Instant := r.receivedAt.getD 0

/-- The message with an id. -/
def message (t : Tables) (id : String) : Except Failure (Option Message) :=
  match t.row? id with
  | none => .ok none
  | some r =>
    (unpack r).map fun raw =>
      some ⟨r.id, r.senderId, r.subjectPreview, r.bodyPreview, r.size, arrival r, raw⟩

/-- The octets of the message with an id. -/
def raw (t : Tables) (id : String) : Except Failure (Option Bytes) :=
  match t.row? id with
  | none => .ok none
  | some r => (unpack r).map some

/-- The listing entry of a row, if its sender exists. -/
def preview? (t : Tables) (r : MessageRow) : Option Preview :=
  (t.address? r.senderId).map fun a =>
    ⟨r.id, a, r.subjectPreview, r.bodyPreview, r.size, arrival r⟩

/-- The messages in the order of their row numbers. -/
def previews (t : Tables) : List Preview :=
  (t.messages.mergeSort fun r s => r.rowid ≤ s.rowid).filterMap t.preview?

end Tables

/-- **An open database.** -/
structure Database where
  /-- The version of its schema. -/
  schema : Nat := 2
  /-- Its tables; none once they have been dropped. -/
  tables : Option Tables := some {}
  deriving DecidableEq, Repr

namespace Database

/-- The name of the table that a call looks at first. -/
def firstTable : Call → String
  | .addressByEmail _ | .address _ | .createAddress _ _ => "addresses"
  | _ => "messages"

/-- What is being done by a call whose table is gone. -/
def activities : Call → List Activity
  | .addressByEmail email => [.retrieveSender email]
  | .address id => [.retrieveSenderById id]
  | .createAddress email _ => [.createAddress email]
  | .insert m => [.createMessage m.id]
  | .message id | .raw id => [.getMessage id]
  | .delete id => [.deleteMessage id]
  | .has _ | .previews | .count => []

/-- What a call does to the tables. -/
def stepTables (c : Call) (t : Tables) : Step Tables c :=
  match c with
  | .addressByEmail email => ⟨.ok (t.addressByEmail? email), t, []⟩
  | .address id => ⟨.ok (t.address? id), t, []⟩
  | .createAddress email name =>
    let r := t.create email name
    let log := match r.1 with
      | .created a => [.debug ("Created address " ++ toString a.id ++ " for " ++ email)]
      | .taken => []
    ⟨.ok r.1, r.2, log⟩
  | .insert m => ⟨(t.insert m).1, (t.insert m).2, []⟩
  | .message id => ⟨t.message id, t, []⟩
  | .raw id => ⟨t.raw id, t, []⟩
  | .has id => ⟨.ok (t.row? id).isSome, t, []⟩
  | .delete id =>
    let n := t.messages.length - (t.delete id).messages.length
    ⟨.ok (), t.delete id,
      [.debug ("Deleted " ++ toString n ++ " row(s) for message " ++ id)]⟩
  | .previews =>
    ⟨.ok t.previews, t,
      [.debug ("Listed " ++ toString t.previews.length ++ " message previews")]⟩
  | .count => ⟨.ok t.messages.length, t, []⟩

/-- What a call does. Without tables every call fails. -/
def step (c : Call) (d : Database) : Step Database c :=
  match d.tables with
  | some t =>
    let o := stepTables c t
    ⟨o.result, { d with tables := some o.state }, o.log⟩
  | none => ⟨.error ⟨.noTable (firstTable c), activities c⟩, d, []⟩

/-- **The store in a database.** -/
def backend : Server Database := ⟨step⟩

end Database

end Maildrop.Store
