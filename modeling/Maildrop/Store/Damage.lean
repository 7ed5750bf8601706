import Maildrop.Store.Database

/-!
# Damage to a database

What can happen to a database from outside: a payload or a time is overwritten, an
address or the tables are taken out, or a later version writes to it. Each function
says how many rows it has changed.

The theory is about damaged payloads (`Maildrop.Store.Database.damagePayload`). The other kinds
of damage are for those who try a store out; no result is about them, and no command does them.
-/

namespace Maildrop.Store.Database

/-- Changes the tables, if they are there. -/
def modify (d : Database) (f : Tables → Nat × Tables) : Nat × Database :=
  match d.tables with
  | some t => ((f t).1, { d with tables := some (f t).2 })
  | none => (0, d)

/-- Changes the rows of a message. -/
def modifyRow (d : Database) (id : String) (f : MessageRow → MessageRow) : Nat × Database :=
  d.modify fun t =>
    (t.messages.countP fun r => r.id = id,
      { t with messages := t.messages.map fun r => if r.id = id then f r else r })

/-- Makes the octets of a message undecodable. -/
def damagePayload (d : Database) (id : String) : Nat × Database :=
  d.modifyRow id fun r => { r with payload := .damaged }

/-- Makes the time of a message unreadable. -/
def damageTime (d : Database) (id : String) : Nat × Database :=
  d.modifyRow id fun r => { r with receivedAt := none }

/-- Takes out an address and leaves its messages. -/
def dropAddress (d : Database) (id : Int) : Nat × Database :=
  d.modify fun t =>
    (t.addresses.countP fun a => a.id = id,
      { t with addresses := t.addresses.filter fun a => a.id ≠ id })

/-- Takes out the tables. -/
def dropTables (d : Database) : Database := { d with tables := none }

/-- Marks the database as written by a later version. -/
def outdate (d : Database) : Database := { d with schema := d.schema + 1 }

end Maildrop.Store.Database
