import Maildrop.Codec
import Maildrop.Store.Pages

/-!
# Databases as octets

A database that nothing has open is kept as octets: a mark, the version of its schema,
and its rows. No octets at all are a database to which nothing has been written yet. A
database of the first version may also be found in the pages in which it was kept by those
who wrote it; it is never written in this form.
-/

namespace Maildrop

/-- The codec of addresses. -/
def Address.codec : Codec Address :=
  (Codec.int.pair (Codec.string.pair Codec.string.option)).iso
    (fun a => (a.id, a.email, a.name)) (fun p => ⟨p.1, p.2.1, p.2.2⟩) fun _ => rfl

namespace Store

/-- The codec of payloads. -/
def Payload.codec : Codec Payload :=
  Codec.bytes.option.iso unpack?
    (fun
      | some raw => .packed raw
      | none => .damaged)
    fun p => by cases p <;> rfl

/-- The codec of rows of the first version. -/
def FirstRow.codec : Codec FirstRow :=
  (Codec.nat.pair (Codec.string.pair (Codec.int.pair (Codec.string.pair
    (Codec.string.pair Payload.codec))))).iso
    (fun r => (r.rowid, r.id, r.senderId, r.subjectPreview, r.bodyPreview, r.payload))
    (fun p => ⟨p.1, p.2.1, p.2.2.1, p.2.2.2.1, p.2.2.2.2.1, p.2.2.2.2.2⟩) fun _ => rfl

/-- The codec of rows. -/
def MessageRow.codec : Codec MessageRow :=
  (FirstRow.codec.pair (Codec.nat.pair Codec.nat.option)).iso
    (fun r =>
      (⟨r.rowid, r.id, r.senderId, r.subjectPreview, r.bodyPreview, r.payload⟩, r.size,
        r.receivedAt))
    (fun p =>
      ⟨p.1.rowid, p.1.id, p.1.senderId, p.1.subjectPreview, p.1.bodyPreview, p.1.payload, p.2.1,
        p.2.2⟩)
    fun _ => rfl

/-- The codec of the tables of the first version. -/
def FirstTables.codec : Codec FirstTables :=
  (Address.codec.list.pair (Codec.nat.pair FirstRow.codec.list)).iso
    (fun t => (t.addresses, t.lastAddress, t.messages)) (fun p => ⟨p.1, p.2.1, p.2.2⟩)
    fun _ => rfl

/-- The codec of tables. -/
def Tables.codec : Codec Tables :=
  (Address.codec.list.pair (Codec.nat.pair MessageRow.codec.list)).iso
    (fun t => (t.addresses, t.lastAddress, t.messages)) (fun p => ⟨p.1, p.2.1, p.2.2⟩)
    fun _ => rfl

/-- The codec of databases. -/
def Database.codec : Codec Database :=
  (Codec.nat.pair Tables.codec.option).iso (fun d => (d.schema, d.tables))
    (fun p => ⟨p.1, p.2⟩) fun _ => rfl

namespace DatabaseFile

/-- The mark in front of a database: a line. -/
def mark : Bytes :=
  ['M', 'a', 'i', 'l', 'd', 'r', 'o', 'p', '\n'].map Ascii.octet

/-- The codec of databases to which something has been written. -/
def codec : Codec (Option FirstTables × Option Database) :=
  FirstTables.codec.option.pair Database.codec.option

/-- **The octets of a database.** -/
def octets : DatabaseFile → Bytes
  | .blank => []
  | .first t => mark ++ codec.encode (some t, none)
  | .later d => mark ++ codec.encode (none, some d)

/-- **The database of octets**, if they are one. -/
def ofOctets? (s : Bytes) : Option DatabaseFile :=
  if s.isEmpty then some .blank
  else
    match (Bytes.stripPrefix? mark s).bind codec.decode with
    | some ((some t, none), []) => some (.first t)
    | some ((none, some d), []) => some (.later d)
    | _ => Pages.database? s

theorem isEmpty_mark_append (s : Bytes) : (mark ++ s).isEmpty = false := rfl

theorem decode_mark_append (p : Option FirstTables × Option Database) :
    (Bytes.stripPrefix? mark (mark ++ codec.encode p)).bind codec.decode = some (p, []) := by
  have h := codec.decode_encode p []
  rw [List.append_nil] at h
  rw [Bytes.stripPrefix?_append, Option.bind_some, h]

/-- **What was written is read back.** -/
theorem ofOctets?_octets (f : DatabaseFile) : ofOctets? f.octets = some f := by
  cases f with
  | blank => rfl
  | first t =>
    simp only [ofOctets?, octets, isEmpty_mark_append, decode_mark_append, Bool.false_eq_true,
      if_false]
  | later d =>
    simp only [ofOctets?, octets, isEmpty_mark_append, decode_mark_append, Bool.false_eq_true,
      if_false]

end DatabaseFile

end Store

end Maildrop
