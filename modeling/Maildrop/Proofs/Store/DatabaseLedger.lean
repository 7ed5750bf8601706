import Maildrop.Proofs.Program
import Maildrop.Proofs.Store.Ledger
import Maildrop.Store.Database

/-!
# The ledger of a store in a database

The tables of a database hold a ledger together with what the database needs for itself:
row numbers, the largest address number ever used, and the octets of the messages in
their packed form. `Maildrop.Store.Tables.Valid` says that nothing has been done to the
tables from outside: every payload can be unpacked, the rows of messages stand in the
order of their row numbers, and the largest address number is the number of addresses.

A database with valid tables answers every call as its ledger does, and its tables are
valid afterwards (`Maildrop.Store.Database.refines`). So the join and the sorting that a
listing goes through change nothing: the next row number is above all that are present,
and every sender that a message refers to is there.

Reading needs no more than that the ledger is linked, that payloads can be unpacked and that rows
are in order (`Maildrop.Store.Tables.Kept`). Calls keep this too, whatever the numbers of the
addresses and the sizes in the rows are, so it holds of tables that another version has filled.
-/

namespace Maildrop.Store

/-- The message that a row holds; octets that cannot be unpacked count as none. -/
def MessageRow.message (x : MessageRow) : Message where
  id := x.id
  senderId := x.senderId
  subjectPreview := x.subjectPreview
  bodyPreview := x.bodyPreview
  size := x.size
  receivedAt := Tables.arrival x
  raw := x.payload.unpack?.getD []

namespace Tables

/-- The ledger that the tables hold. -/
def ledger (t : Tables) : Ledger := ⟨t.addresses, t.messages.map MessageRow.message⟩

end Tables

namespace Database

/-- Emails are the same up to the case of ASCII letters. -/
def rules : Rules where
  same := sameEmail
  refusal m := ⟨.brokenReference, [.createMessage m.id]⟩

/-- The ledger that a database holds; without tables it is empty. -/
def ledger (d : Database) : Ledger := (d.tables.map Tables.ledger).getD {}

end Database

namespace Tables

/-- **Tables whose messages can all be shown**, whatever the numbers of their addresses and the
sizes of their rows are. -/
structure Kept (t : Tables) : Prop where
  linked : t.ledger.Linked
  /-- Every payload can be unpacked. -/
  intact : ∀ x ∈ t.messages, x.payload.unpack?.isSome
  /-- Rows stand in the order of their numbers. -/
  ordered : t.messages.Pairwise fun x y => x.rowid < y.rowid

/-- **Tables that nothing but calls has changed.** -/
structure Valid (t : Tables) : Prop where
  sound : Database.rules.Sound t.ledger
  /-- Numbers of addresses have been used without gaps. -/
  last : t.lastAddress = t.addresses.length
  /-- Every payload can be unpacked. -/
  intact : ∀ x ∈ t.messages, x.payload.unpack?.isSome
  /-- Rows stand in the order of their numbers. -/
  ordered : t.messages.Pairwise fun x y => x.rowid < y.rowid

theorem Valid.kept {t : Tables} (h : t.Valid) : t.Kept where
  linked := h.sound.linked
  intact := h.intact
  ordered := h.ordered

theorem valid_empty : Valid {} where
  sound := Rules.sound_empty
  last := rfl
  intact x hx := by simp at hx
  ordered := List.Pairwise.nil

variable {t : Tables}

@[simp] theorem ledger_messages (t : Tables) :
    t.ledger.messages = t.messages.map MessageRow.message := rfl

@[simp] theorem ledger_addresses (t : Tables) : t.ledger.addresses = t.addresses := rfl

/-! ### Looking things up -/

theorem addressByEmail?_ledger (email : String) :
    Database.rules.addressByEmail? t.ledger email = t.addressByEmail? email := rfl

theorem address?_ledger (id : Int) : t.ledger.address? id = t.address? id := rfl

theorem message?_ledger (id : String) :
    t.ledger.message? id = (t.row? id).map MessageRow.message := by
  rw [Ledger.message?, ledger_messages, List.find?_map]
  rfl

theorem isSome_row? (id : String) : (t.row? id).isSome = (t.ledger.message? id).isSome := by
  rw [message?_ledger, Option.isSome_map]

/-- A payload that can be unpacked holds the octets of the message. -/
theorem Kept.unpack_eq (h : t.Kept) {x : MessageRow} (hx : x ∈ t.messages) :
    unpack x = .ok x.message.raw := by
  obtain ⟨raw, hraw⟩ := Option.isSome_iff_exists.mp (h.intact x hx)
  rw [unpack, MessageRow.message, hraw]
  rfl

theorem Kept.message_eq (h : t.Kept) (id : String) :
    t.message id = .ok (t.ledger.message? id) := by
  rw [message, message?_ledger]
  rcases hx : t.row? id with _ | x
  · rfl
  · dsimp only
    rw [h.unpack_eq (List.mem_of_find?_eq_some hx)]
    rfl

theorem Kept.raw_eq (h : t.Kept) (id : String) :
    t.raw id = .ok ((t.ledger.message? id).map Message.raw) := by
  rw [raw, message?_ledger]
  rcases hx : t.row? id with _ | x
  · rfl
  · dsimp only
    rw [h.unpack_eq (List.mem_of_find?_eq_some hx)]
    rfl

/-- Sorting rows that stand in order changes nothing. -/
theorem Kept.previews_eq (h : t.Kept) : t.previews = t.ledger.previews := by
  have hsort : (t.messages.mergeSort fun x y => x.rowid ≤ y.rowid) = t.messages :=
    List.mergeSort_of_pairwise (h.ordered.imp fun hxy => decide_eq_true (Nat.le_of_lt hxy))
  rw [previews, hsort, Ledger.previews, ledger_messages, List.filterMap_map]
  rfl

/-! ### Row numbers -/

theorem le_foldl_max (ns : List Nat) (m : Nat) :
    m ≤ ns.foldl max m ∧ ∀ n ∈ ns, n ≤ ns.foldl max m := by
  induction ns generalizing m with
  | nil => exact ⟨Nat.le_refl m, by simp⟩
  | cons n ns ih =>
    obtain ⟨hm, hns⟩ := ih (max m n)
    refine ⟨Nat.le_trans (Nat.le_max_left m n) hm, fun k hk => ?_⟩
    rcases List.mem_cons.mp hk with rfl | hk
    · exact Nat.le_trans (Nat.le_max_right m k) hm
    · exact hns k hk

/-- The next row number is above all that are present. -/
theorem rowid_lt_nextRow {x : MessageRow} (hx : x ∈ t.messages) : x.rowid < t.nextRow :=
  Nat.lt_succ_of_le ((le_foldl_max _ 0).2 _ (List.mem_map.mpr ⟨x, hx, rfl⟩))

/-! ### The calls -/

theorem Valid.create_eq (h : t.Valid) (email : String) (name : Option String) :
    (t.create email name).1 = (Database.rules.create t.ledger email name).1 ∧
      (t.create email name).2.ledger = (Database.rules.create t.ledger email name).2 := by
  rw [create, Rules.create, addressByEmail?_ledger, h.last]
  split <;> exact ⟨rfl, rfl⟩

theorem insert_eq (t : Tables) (m : NewMessage) :
    (t.insert m).1 = (Database.rules.insert t.ledger m).1 ∧
      (t.insert m).2.ledger = (Database.rules.insert t.ledger m).2 := by
  rw [insert, Rules.insert, isSome_row?, address?_ledger]
  split
  · exact ⟨rfl, rfl⟩
  · split
    · exact ⟨rfl, rfl⟩
    · refine ⟨rfl, ?_⟩
      simp only [ledger, Ledger.addMessage, List.map_append]
      rfl

theorem ledger_delete (t : Tables) (id : String) : (t.delete id).ledger = t.ledger.strike id := by
  simp only [ledger, delete, Ledger.strike, List.filter_map]
  rfl

/-- What a call does to the rows of messages: it leaves some of them out, or adds one. -/
theorem rows_step (t : Tables) (c : Call) :
    (∃ p, (Database.stepTables c t).state.messages = t.messages.filter p) ∨
      ∃ m, (Database.stepTables c t).state.messages = t.messages ++ [t.newRow m] := by
  have hall : t.messages = t.messages.filter fun _ => true :=
    (List.filter_eq_self.mpr fun _ _ => rfl).symm
  cases c with
  | createAddress email name =>
    refine .inl ⟨_, Eq.trans ?_ hall⟩
    change (t.create email name).2.messages = t.messages
    rw [create]
    split <;> rfl
  | insert m =>
    change (∃ p, (t.insert m).2.messages = _) ∨ ∃ m', (t.insert m).2.messages = _
    rw [insert]
    split
    · exact .inl ⟨_, hall⟩
    · split
      · exact .inl ⟨_, hall⟩
      · exact .inr ⟨m, rfl⟩
  | delete id => exact .inl ⟨_, rfl⟩
  | _ => exact .inl ⟨_, hall⟩

/-- **Every call leaves tables whose messages can all be shown.** -/
theorem Kept.step (h : t.Kept) (c : Call) : (Database.stepTables c t).state.Kept where
  linked := by
    cases c with
    | createAddress email name =>
      change (t.create email name).2.ledger.Linked
      rw [create]
      split
      · exact h.linked
      · exact h.linked.addAddress _
    | insert m =>
      change (t.insert m).2.ledger.Linked
      rw [(insert_eq t m).2]
      exact h.linked.insert _ m
    | delete id =>
      change (t.delete id).ledger.Linked
      rw [ledger_delete]
      exact h.linked.strike id
    | _ => exact h.linked
  intact x hx := by
    obtain ⟨p, hrows⟩ | ⟨m, hrows⟩ := rows_step t c <;> rw [hrows] at hx
    · exact h.intact x (List.mem_filter.mp hx).1
    · rcases List.mem_append.mp hx with hx | hx
      · exact h.intact x hx
      · rw [List.mem_singleton.mp hx]
        rfl
  ordered := by
    obtain ⟨p, hrows⟩ | ⟨m, hrows⟩ := rows_step t c <;> rw [hrows]
    · exact h.ordered.sublist List.filter_sublist
    · -- the new row comes last, and its number is above all that are present
      refine List.pairwise_append.mpr ⟨h.ordered, List.pairwise_singleton _ _, ?_⟩
      intro x hx y hy
      rw [List.mem_singleton.mp hy]
      exact rowid_lt_nextRow hx

/-- **Valid tables answer every call as their ledger does.** -/
theorem Valid.result_step (h : t.Valid) (c : Call) :
    (Database.stepTables c t).result = (Database.rules.server.step c t.ledger).result := by
  cases c with
  | addressByEmail email => rfl
  | address id => rfl
  | createAddress email name => exact congrArg Except.ok (h.create_eq email name).1
  | insert m => exact (insert_eq t m).1
  | message id => exact h.kept.message_eq id
  | raw id => exact h.kept.raw_eq id
  | has id => exact congrArg Except.ok (isSome_row? id)
  | delete id => rfl
  | previews => exact congrArg Except.ok h.kept.previews_eq
  | count => exact congrArg Except.ok (by simp)

/-- Valid tables go where their ledger goes. -/
theorem Valid.ledger_step (h : t.Valid) (c : Call) :
    (Database.stepTables c t).state.ledger = (Database.rules.server.step c t.ledger).state := by
  cases c with
  | createAddress email name => exact (h.create_eq email name).2
  | insert m => exact (insert_eq t m).2
  | delete id => exact ledger_delete t id
  | _ => rfl

/-- **Every call keeps the tables valid.** -/
theorem Valid.step (h : t.Valid) (c : Call) : (Database.stepTables c t).state.Valid where
  sound := h.ledger_step c ▸ Rules.sound_step h.sound c
  last := by
    cases c with
    | createAddress email name =>
      change (t.create email name).2.lastAddress = (t.create email name).2.addresses.length
      rw [create]
      split
      · exact h.last
      · simp [h.last]
    | insert m =>
      change (t.insert m).2.lastAddress = (t.insert m).2.addresses.length
      rw [insert]
      split
      · exact h.last
      · split <;> exact h.last
    | _ => exact h.last
  intact := (h.kept.step c).intact
  ordered := (h.kept.step c).ordered

end Tables

/-- **A database stands for its ledger.** -/
theorem Database.refines :
    Refines Database.backend Database.rules.server fun d l =>
      (∃ t, d.tables = some t ∧ t.Valid) ∧ d.ledger = l where
  result c d l h := by
    obtain ⟨⟨t, ht, hv⟩, rfl⟩ := h
    rw [ledger, ht]
    change (step c d).result = _
    rw [step, ht]
    exact hv.result_step c
  state c d l h := by
    obtain ⟨⟨t, ht, hv⟩, rfl⟩ := h
    have hstate : (backend.step c d).state.tables = some (stepTables c t).state := by
      change (step c d).state.tables = _
      rw [step, ht]
    refine ⟨⟨_, hstate, hv.step c⟩, ?_⟩
    rw [ledger, ledger, hstate, ht]
    exact hv.ledger_step c

end Maildrop.Store
