import Maildrop.Proofs.Store.File
import Maildrop.Proofs.Store.History
import Maildrop.Proofs.Store.Tables

/-!
# Databases of the first version

The first version kept no sizes. When a database of it is opened, the rows of its messages get the
size that the new column has by default, and nothing else is done to them: the octets, from which
the size could be had, are not looked at.

So the tables of such a database are not valid afterwards (`Maildrop.Store.Tables.Valid`), since
the sizes in its ledger are not true. What is left of validity is that every message can be shown
(`Maildrop.Store.Tables.Kept`). Every call preserves this, and it is enough to say what the
database shows (`Maildrop.Store.Database.Shows`), at once and after any calls
(`Maildrop.Store.FirstTables.migration`): all addresses and messages in their order, the old ones
with the size 0 for as long as they are there, the new ones with true sizes.

All this is said of whatever file the database is read from. One such file is given octet by octet
(`Maildrop.Store.FirstTables.lettersFile`).
-/

namespace Maildrop.Store

open Host (Disk Place)
open Database (LeadsTo endings swept)

/-! ### Tables whose messages can be shown -/

/-- **What a database shows**: some addresses, and some messages and no others, oldest first. -/
structure Database.Shows (d : Database) (addresses : List Address) (messages : List Message) :
    Prop where
  /-- Each address is found by its number and by its email. -/
  address : ∀ a ∈ addresses,
    (backend.step (.address a.id) d).result = .ok (some a) ∧
    (backend.step (.addressByEmail a.email) d).result = .ok (some a)
  /-- No two messages have the same id. -/
  unique : (messages.map Message.id).Nodup
  /-- Each message is found by its id. -/
  present : ∀ m ∈ messages,
    (backend.step (.message m.id) d).result = .ok (some m) ∧
    (backend.step (.raw m.id) d).result = .ok (some m.raw)
  /-- No other id leads to anything. -/
  absent : ∀ id, id ∉ messages.map Message.id →
    (backend.step (.message id) d).result = .ok none ∧
    (backend.step (.raw id) d).result = .ok none
  /-- The listing has an entry for each message, in their order. -/
  previews : ∃ ps, (backend.step .previews d).result = .ok ps ∧
    List.Forall₂ (fun m p => (backend.step (.address m.senderId) d).result = .ok (some p.sender) ∧
      p = m.preview p.sender) messages ps
  /-- So has the mailbox, with the sizes alone. -/
  entries : (Mailbox.entries.eval backend d).1 = .ok (messages.map fun m => ⟨m.id, m.size⟩)
  /-- As many messages are counted as are shown. -/
  count : (backend.step .count d).result = .ok messages.length

namespace Tables

variable {t : Tables}

/-- Tables are amended as the history says. -/
theorem amends (c : Call) (t : Tables) :
    Amends ⟨c, (server.step c t).result⟩ t.ledger.messages
      (server.step c t).state.ledger.messages := by
  cases c with
  | createAddress email name => exact congrArg (List.map _) (t.messages_create email name)
  | insert m =>
    have h := Database.rules.amends (.insert m) t.ledger
    obtain ⟨hresult, hledger⟩ := insert_eq t m
    change Amends ⟨.insert m, (t.insert m).1⟩ _ (t.insert m).2.ledger.messages
    rwa [hresult, hledger]
  | delete id =>
    change (t.delete id).ledger.messages = _
    rw [ledger_delete]
    rfl
  | _ => rfl

/-- **An address that can be found**, by its number and by its email. -/
def Finds (t : Tables) (a : Address) : Prop :=
  t.address? a.id = some a ∧ t.addressByEmail? a.email = some a

/-- An address that can be found is found after every call. -/
theorem Finds.step {a : Address} (h : t.Finds a) (c : Call) : (server.step c t).state.Finds a := by
  cases c with
  | createAddress email name =>
    change (t.create email name).2.Finds a
    rcases t.create_cases email name with ⟨-, heq⟩ | ⟨-, heq⟩ <;> rw [heq]
    · -- another address comes behind those that there are
      obtain ⟨hnumber, hemail⟩ := h
      rw [address?] at hnumber
      rw [addressByEmail?] at hemail
      exact ⟨by simp [address?, hnumber], by simp [addressByEmail?, hemail]⟩
    · exact h
  | insert m =>
    change (t.insert m).2.Finds a
    rw [insert]
    split
    · exact h
    · split <;> exact h
  | _ => exact h

/-- **Tables show the messages of their ledger**, if all of them can be shown. -/
theorem Kept.shows (h : t.Kept) {addresses : List Address} (hfinds : ∀ a ∈ addresses, t.Finds a)
    (n : Nat) : Database.Shows ⟨n, some t⟩ addresses t.ledger.messages where
  address a ha := ⟨congrArg Except.ok (hfinds a ha).1, congrArg Except.ok (hfinds a ha).2⟩
  unique := h.linked.unique
  present m hm := by
    have hfound := Ledger.message?_of_mem h.linked.unique hm
    refine ⟨(h.message_eq m.id).trans (congrArg Except.ok hfound), (h.raw_eq m.id).trans ?_⟩
    rw [hfound]
    rfl
  absent id hid := by
    have hlost : t.ledger.message? id = none := Ledger.message?_eq_none.mpr fun m hm heq =>
      hid (List.mem_map.mpr ⟨m, hm, heq⟩)
    refine ⟨(h.message_eq id).trans (congrArg Except.ok hlost), (h.raw_eq id).trans ?_⟩
    rw [hlost]
    rfl
  previews := by
    refine ⟨_, congrArg Except.ok h.previews_eq, h.linked.forall₂_previews.imp fun m p hmp => ?_⟩
    obtain ⟨a, ha, rfl⟩ := hmp
    exact ⟨congrArg Except.ok ha, rfl⟩
  entries := by
    have heval : Mailbox.entries.eval Database.backend ⟨n, some t⟩ =
        (.ok (t.previews.map fun p => ⟨p.id, p.size⟩), ⟨n, some t⟩) :=
      Database.eval_tables Mailbox.entries.run n t
    rw [heval, h.previews_eq]
    exact congrArg Except.ok (h.linked.map_previews fun _ _ => rfl)
  count := congrArg Except.ok (by simp)

/-- **What tables show after any calls**: the addresses that they have shown, of the messages those
that no call has displaced, and then those that stand. -/
theorem Kept.shows_after (h : t.Kept) {addresses : List Address}
    (hfinds : ∀ a ∈ addresses, t.Finds a) (n : Nat) (cs : List Call) :
    Database.Shows (Database.backend.after cs ⟨n, some t⟩) addresses
      (undisplaced (Database.backend.history cs ⟨n, some t⟩) t.ledger.messages ++
        (standing (Database.backend.history cs ⟨n, some t⟩)).map NewMessage.stored) := by
  obtain ⟨hhistory, hafter⟩ := (Database.refines_tables n).history cs (t := t) rfl
  have hkept : (server.after cs t).Kept :=
    server.after_keeps (I := Kept) (fun c _ ht => ht.step c) cs h
  have hfinds' : ∀ a ∈ addresses, (server.after cs t).Finds a := fun a ha =>
    server.after_keeps (I := (Finds · a)) (fun c _ ht => ht.step c) cs (hfinds a ha)
  rw [hhistory, hafter, ← messages_after_of_amends amends]
  exact hkept.shows hfinds' n

end Tables

/-! ### The first version -/

/-- **The message of a row of the first version.** It has no size of its own and no time. -/
def FirstRow.message (r : FirstRow) : Message where
  id := r.id
  senderId := r.senderId
  subjectPreview := r.subjectPreview
  bodyPreview := r.bodyPreview
  size := 0
  receivedAt := 0
  raw := r.payload.unpack?.getD []

/-- **What the first version made sure of** by the constraints on its columns, and by reading the
rows in their order. -/
structure FirstTables.Valid (t : FirstTables) : Prop where
  /-- No two addresses have the same number. -/
  numbers : (t.addresses.map Address.id).Nodup
  /-- No two addresses have the same email. -/
  emails : t.addresses.Pairwise fun a b => sameEmail a.email b.email = false
  /-- Every message has a sender. -/
  known : ∀ r ∈ t.messages, r.senderId ∈ t.addresses.map Address.id
  /-- No two messages have the same id. -/
  unique : (t.messages.map FirstRow.id).Nodup
  /-- Every payload can be unpacked. -/
  intact : ∀ r ∈ t.messages, r.payload.unpack?.isSome
  /-- Rows stand in the order of their numbers. -/
  ordered : t.messages.Pairwise fun r s => r.rowid < s.rowid

namespace FirstTables

variable {t : FirstTables}

theorem ledger_migrate (t : FirstTables) :
    t.migrate.ledger = ⟨t.addresses, t.messages.map FirstRow.message⟩ :=
  congrArg (Ledger.mk t.addresses) (List.map_map ..)

/-- **Migration keeps what can be shown.** -/
theorem Valid.kept_migrate (h : t.Valid) : t.migrate.Kept where
  linked := by
    rw [ledger_migrate]
    constructor
    · intro m hm
      obtain ⟨r, hr, rfl⟩ := List.mem_map.mp hm
      obtain ⟨a, ha, haid⟩ := List.mem_map.mp (h.known r hr)
      exact List.find?_isSome.mpr ⟨a, ha, decide_eq_true haid⟩
    · rw [List.map_map]
      exact h.unique
  intact x hx := by
    obtain ⟨r, hr, rfl⟩ := List.mem_map.mp hx
    exact h.intact r hr
  ordered := List.pairwise_map.mpr h.ordered

/-- Where no two elements are alike, an element is the first one like itself. -/
theorem find?_of_pairwise {α : Type} {p : α → α → Bool} (hself : ∀ a, p a a) {as : List α}
    (has : as.Pairwise fun a b => p a b = false) {a : α} (ha : a ∈ as) :
    as.find? (fun b => p b a) = some a := by
  induction as with
  | nil => exact absurd ha List.not_mem_nil
  | cons b as ih =>
    obtain ⟨hb, has⟩ := List.pairwise_cons.mp has
    rcases List.mem_cons.mp ha with rfl | ha
    · rw [List.find?_cons, hself]
    · rw [List.find?_cons, hb a ha]
      exact ih has ha

/-- Migration leaves every address where it can be found. -/
theorem Valid.finds_migrate (h : t.Valid) : ∀ a ∈ t.addresses, t.migrate.Finds a := by
  let sameNumber (a b : Address) : Bool := a.id = b.id
  let sameAddress (a b : Address) : Bool := sameEmail a.email b.email
  have hnumbers : t.addresses.Pairwise fun a b => sameNumber a b = false :=
    (List.pairwise_map.mp h.numbers).imp decide_eq_false
  have hself : ∀ a, sameNumber a a := fun _ => decide_eq_true rfl
  have hself' : ∀ a, sameAddress a a := fun a => sameEmail_self a.email
  exact fun a ha => ⟨find?_of_pairwise hself hnumbers ha, find?_of_pairwise hself' h.emails ha⟩

/-- A file of the first version is opened with its tables migrated. -/
theorem opened_migrate {d made : Disk} {path name : String} {q : Place} {content : Bytes}
    (hleads : LeadsTo path d made name q) (hnode : made.node? q = some (.file content))
    (hfile : DatabaseFile.ofOctets? content = some (.first t)) :
    Database.Opened path d (some q) ⟨schemaVersion, some t.migrate⟩
      ((swept name endings made).put q
        (Database.closedFile ⟨schemaVersion, some t.migrate⟩)) := by
  refine .file hleads ?_
  rw [Database.onDisk?, hnode]
  dsimp only
  rw [hfile]
  rfl

/-- After migration sizes are true as far as messages of the first version are empty. -/
theorem forall_size_eq_iff (h : List ((c : Call) × c.Result)) (rs : List FirstRow)
    (ms : List NewMessage) :
    (∀ m ∈ undisplaced h (rs.map FirstRow.message) ++ ms.map NewMessage.stored,
        m.size = m.raw.length) ↔
      ∀ m ∈ undisplaced h (rs.map FirstRow.message), m.raw = [] := by
  have hold : ∀ m ∈ undisplaced h (rs.map FirstRow.message), m.size = 0 := fun m hm => by
    obtain ⟨r, -, rfl⟩ := List.mem_map.mp (List.mem_filter.mp hm).1
    rfl
  constructor
  · intro hsizes m hm
    have hsize := hsizes m (List.mem_append_left _ hm)
    rw [hold m hm] at hsize
    exact List.length_eq_zero_iff.mp hsize.symm
  · intro hempty m hm
    rcases List.mem_append.mp hm with hm | hm
    · rw [hold m hm, hempty m hm]
      rfl
    · obtain ⟨m', -, rfl⟩ := List.mem_map.mp hm
      rfl

/-- **What migration makes of a database of the first version.** It opens, and shows the addresses
and the messages that it had, in their order and with the size 0. After any calls it shows of
these what no call has displaced, followed by what has been stored since. All sizes that it shows
are true if and only if the messages of the first version that are left are empty. -/
theorem migration (ht : t.Valid) {d made : Disk} {path name : String} {q : Place} {content : Bytes}
    (hleads : LeadsTo path d made name q) (hnode : made.node? q = some (.file content))
    (hfile : DatabaseFile.ofOctets? content = some (.first t)) (input : Bytes) (clock : Instant) :
    ∃ db, (Database.openFile path).eval (Disk.host input clock) d =
        (.ok db, (swept name endings made).put q db.closedFile) ∧
      db.Shows t.addresses (t.messages.map FirstRow.message) ∧
      ∀ cs : List Call,
        let h := Database.backend.history cs db
        let left := undisplaced h (t.messages.map FirstRow.message)
        let shown := left ++ (standing h).map NewMessage.stored
        (Database.backend.after cs db).Shows t.addresses shown ∧
          ((∀ m ∈ shown, m.size = m.raw.length) ↔ ∀ m ∈ left, m.raw = []) := by
  have hmessages : t.migrate.ledger.messages = t.messages.map FirstRow.message := by
    rw [ledger_migrate]
  refine ⟨⟨schemaVersion, some t.migrate⟩,
    (opened_migrate hleads hnode hfile).eval_openFile input clock, ?_, fun cs => ⟨?_, ?_⟩⟩
  · rw [← hmessages]
    exact ht.kept_migrate.shows ht.finds_migrate _
  · rw [← hmessages]
    exact ht.kept_migrate.shows_after ht.finds_migrate _ cs
  · exact forall_size_eq_iff ..

/-! ### A file of the first version -/

/-- A database of the first version with two messages. -/
def letters : FirstTables where
  addresses := [⟨1, "a@b", none⟩]
  lastAddress := 1
  messages := [
    ⟨1, "eZZjM4GUSxSB_e6yvYgwHLO2LXCAGWMfxG5vBjgoK2U", 1, "Hi", "Hello",
      .packed "Subject: Hi\n\nHello".toUTF8.data.toList⟩,
    ⟨2, "5bXMuG37py-5O16eFmyiITbULk-2GcQ4KRCgtzuyDSE", 1, "Again",
      "Hello again. Hello again. Hello again. Hello again. Hello again.",
      .packed ("Subject: Again\n\nHello again. Hello again. Hello again. Hello again. " ++
        "Hello again. ").toUTF8.data.toList⟩]

/-- The octets of a text in ASCII. -/
def plain (s : String) : Bytes := s.toUTF8.data.toList

/-- A page of 1024 octets, the middle of which is unused. -/
def page (front back : Bytes) : Bytes :=
  front ++ List.replicate (1024 - (front.length + back.length)) 0 ++ back

/-- The definition of a table, a column on each line. -/
def table (name : String) (columns : List String) : Bytes :=
  plain ("CREATE TABLE " ++ name ++ " (\n                " ++
    "\n                ".intercalate columns ++ "\n            )")

/-- The first page: the header of the file, and the schema, row by row from the last one to the
first. -/
def schemaPage : Bytes :=
  page
    (plain "SQLite format 3\x00" ++
      [4, 0, 2, 2, 0, 64, 32, 32, 0, 0, 0, 2, 0, 0, 0, 7, 0, 0, 0, 0, 0, 0, 0, 0, 0, 0, 0, 3, 0, 0,
        0, 4, 0, 0, 0, 0, 0, 0, 0, 0, 0, 0, 0, 1, 0, 0, 0, 1] ++ List.replicate 31 0 ++
      [2, 0, 46, 122, 112, 13, 3, 248, 0, 6, 0, 146, 0, 2, 242, 3, 197, 2, 160, 0, 249, 2, 111, 0,
        146])
    ([0x65, 6, 7, 0x17, 0x39, 0x1D, 1, 0x81, 1] ++
      plain "indexidx_messages_sender_idmessages" ++ [7] ++
      plain "CREATE INDEX idx_messages_sender_id ON messages(sender_id)" ++
      [0x82, 0x73, 4, 7, 0x17, 0x1D, 0x1D, 1, 0x85, 0x39] ++
      plain "tablemessagesmessages" ++ [5] ++
      table "messages" ["id TEXT PRIMARY KEY NOT NULL,", "sender_id INTEGER NOT NULL,",
        "subject VARCHAR(100) NOT NULL,", "abstract VARCHAR(100) NOT NULL,",
        "raw BLOB NOT NULL,  -- zstd compressed",
        "FOREIGN KEY (sender_id) REFERENCES addresses(id)"] ++
      [0x2F, 5, 6, 0x17, 0x43, 0x1D, 1, 0] ++
      plain "indexsqlite_autoindex_messages_1messages" ++ [6] ++
      [0x50, 3, 6, 0x17, 0x2B, 0x2B, 1, 0x59] ++
      plain "tablesqlite_sequencesqlite_sequence" ++ [4] ++
      plain "CREATE TABLE sqlite_sequence(name,seq)" ++
      [0x81, 0x50, 1, 7, 0x17, 0x1F, 0x1F, 1, 0x82, 0x6F] ++
      plain "tableaddressesaddresses" ++ [2] ++
      table "addresses" ["id INTEGER PRIMARY KEY AUTOINCREMENT,",
        "email TEXT NOT NULL UNIQUE COLLATE NOCASE,", "name TEXT"] ++
      [0x31, 2, 6, 0x17, 0x45, 0x1F, 1, 0] ++
      plain "indexsqlite_autoindex_addresses_1addresses" ++ [3, 0, 0, 0, 8, 0, 0, 0, 0])

/-- **The file of the two messages**, as the first version has left it. The octets of the first
message stand in their frame as they are, and those of the second one are compressed. -/
def lettersFile : Bytes :=
  List.flatten [
    schemaPage,
    -- the addresses, and the index of their emails
    page [13, 0, 0, 0, 1, 3, 247, 0, 3, 247] ([7, 1, 4, 0, 0x13, 0] ++ plain "a@b"),
    page [10, 0, 0, 0, 1, 3, 249, 0, 3, 249] ([6, 3, 0x13, 9] ++ plain "a@b"),
    -- the last number of an address
    page [13, 0, 0, 0, 1, 3, 242, 0, 3, 242] ([0x0C, 1, 3, 0x1F, 9] ++ plain "addresses"),
    -- the messages, and the indexes of their ids and of their senders
    page [13, 0, 0, 0, 2, 3, 4, 0, 3, 171, 3, 4]
      ([0x81, 0x24, 2, 7, 0x63, 9, 0x17, 0x81, 0x0D, 0x66] ++
        plain "5bXMuG37py-5O16eFmyiITbULk-2GcQ4KRCgtzuyDSEAgain" ++
        plain "Hello again. Hello again. Hello again. Hello again. Hello again." ++
        [0x28, 0xB5, 0x2F, 0xFD, 0, 0x58, 0x25, 1, 0, 0xE8] ++
        plain "Subject: Again\n\nHello again. " ++ [1, 0, 5, 0xCE, 0xE9, 4] ++
        [0x53, 1, 6, 0x63, 9, 0x11, 0x17, 0x42] ++
        plain "eZZjM4GUSxSB_e6yvYgwHLO2LXCAGWMfxG5vBjgoK2UHiHello" ++
        [0x28, 0xB5, 0x2F, 0xFD, 0, 0x58, 0x91, 0, 0] ++ plain "Subject: Hi\n\nHello"),
    page [10, 0, 0, 0, 2, 3, 161, 0, 3, 161, 3, 209]
      ([0x2F, 3, 0x63, 1] ++ plain "5bXMuG37py-5O16eFmyiITbULk-2GcQ4KRCgtzuyDSE" ++
        [2, 0x2E, 3, 0x63, 9] ++ plain "eZZjM4GUSxSB_e6yvYgwHLO2LXCAGWMfxG5vBjgoK2U"),
    page [10, 0, 0, 0, 2, 3, 247, 0, 3, 252, 3, 247] [4, 3, 9, 1, 2, 3, 3, 9, 9]]

/-- The two messages are read from their file. -/
theorem ofOctets?_lettersFile : DatabaseFile.ofOctets? lettersFile = some (.first letters) := by
  decide +kernel

theorem valid_letters : letters.Valid where
  numbers := by simp [letters]
  emails := List.pairwise_singleton _ _
  known := by simp [letters]
  unique := by simp [letters]
  intact := by simp [letters, Payload.unpack?]
  ordered := by simp [letters]

/-- The path of the file leads to it, and nothing stands beside it. -/
theorem leadsTo_letters :
    let d : Disk := Disk.put {} ["m".toList] (.file lettersFile)
    LeadsTo "m" d d "m" ["m".toList] ∧ swept "m" endings d = d := by
  intro d
  have hname : Path.normal "m" = "m" := by decide +kernel
  have hleads : LeadsTo "m" d d (Path.normal "m") ["m".toList] :=
    Database.leadsTo_of_resolve (by decide) (by decide) (by decide) rfl
  exact ⟨hname ▸ hleads, Database.swept_eq (by decide +kernel)⟩

/-- The messages are shown with their octets, under their sender, and with the size 0. -/
theorem migration_letters :
    let q : Place := ["m".toList]
    let d : Disk := Disk.put {} q (.file lettersFile)
    letters.Valid ∧ LeadsTo "m" d d "m" q ∧ d.node? q = some (.file lettersFile) ∧
      DatabaseFile.ofOctets? lettersFile = some (.first letters) ∧
      ∃ db, (Database.openFile "m").eval (Disk.host [] 0) d = (.ok db, d.put q db.closedFile) ∧
        db.Shows [⟨1, "a@b", none⟩] [
          ⟨"eZZjM4GUSxSB_e6yvYgwHLO2LXCAGWMfxG5vBjgoK2U", 1, "Hi", "Hello", 0, 0,
            plain "Subject: Hi\n\nHello"⟩,
          ⟨"5bXMuG37py-5O16eFmyiITbULk-2GcQ4KRCgtzuyDSE", 1, "Again",
            "Hello again. Hello again. Hello again. Hello again. Hello again.", 0, 0,
            plain ("Subject: Again\n\nHello again. Hello again. Hello again. Hello again. " ++
              "Hello again. ")⟩] := by
  intro q d
  obtain ⟨hleads, hswept⟩ := leadsTo_letters
  have hnode : d.node? q = some (.file lettersFile) := rfl
  obtain ⟨db, hopen, hshows, -⟩ :=
    migration valid_letters hleads hnode ofOctets?_lettersFile [] 0
  rw [hswept] at hopen
  exact ⟨valid_letters, hleads, hnode, ofOctets?_lettersFile, db, hopen, hshows⟩

/-- **Migration loses sizes.** The octets of the messages are there, eighteen and eighty-one of
them, while the messages, their entries in the listing and the mailbox all say that there are
none. -/
theorem migration_loses_size :
    let q : Place := ["m".toList]
    let d : Disk := Disk.put {} q (.file lettersFile)
    ∃ db m m' p p',
      (Database.openFile "m").eval (Disk.host [] 0) d = (.ok db, d.put q db.closedFile) ∧
      (∀ x ∈ [m, m'], (Database.backend.step (.message x.id) db).result = .ok (some x) ∧
        (Database.backend.step (.raw x.id) db).result = .ok (some x.raw) ∧ x.size = 0) ∧
      m.raw.length = 18 ∧ m'.raw.length = 81 ∧
      (Database.backend.step .previews db).result = .ok [p, p'] ∧ p.id = m.id ∧ p'.id = m'.id ∧
      p.size = 0 ∧ p'.size = 0 ∧
      (Mailbox.entries.eval Database.backend db).1 = .ok [⟨m.id, 0⟩, ⟨m'.id, 0⟩] := by
  intro q d
  obtain ⟨hleads, hswept⟩ := leadsTo_letters
  have hopened : Database.Opened "m" d (some q) _ _ :=
    opened_migrate hleads rfl ofOctets?_lettersFile
  have hopen := hopened.eval_openFile [] 0
  rw [hswept] at hopen
  have hshows := valid_letters.kept_migrate.shows valid_letters.finds_migrate schemaVersion
  let m : Message := ⟨"eZZjM4GUSxSB_e6yvYgwHLO2LXCAGWMfxG5vBjgoK2U", 1, "Hi", "Hello", 0, 0,
    plain "Subject: Hi\n\nHello"⟩
  let m' : Message := ⟨"5bXMuG37py-5O16eFmyiITbULk-2GcQ4KRCgtzuyDSE", 1, "Again",
    "Hello again. Hello again. Hello again. Hello again. Hello again.", 0, 0,
    plain ("Subject: Again\n\nHello again. Hello again. Hello again. Hello again. " ++
      "Hello again. ")⟩
  have hmessages : letters.migrate.ledger.messages = [m, m'] := rfl
  rw [hmessages] at hshows
  obtain ⟨ps, hps, hall⟩ := hshows.previews
  obtain ⟨p, ps', ⟨-, hp⟩, hrest, rfl⟩ := List.forall₂_cons_left_iff.mp hall
  obtain ⟨p', ps'', ⟨-, hp'⟩, hnone, rfl⟩ := List.forall₂_cons_left_iff.mp hrest
  obtain rfl := List.forall₂_nil_left_iff.mp hnone
  refine ⟨_, m, m', p, p', hopen, fun x hx => ?_, by decide +kernel, by decide +kernel, hps,
    congrArg Preview.id hp, congrArg Preview.id hp', congrArg Preview.size hp,
    congrArg Preview.size hp', hshows.entries⟩
  obtain ⟨hmessage, hraw⟩ := hshows.present x hx
  refine ⟨hmessage, hraw, ?_⟩
  rcases List.mem_cons.mp hx with rfl | hx
  · rfl
  · obtain rfl := List.mem_singleton.mp hx
    rfl

end FirstTables

end Maildrop.Store
