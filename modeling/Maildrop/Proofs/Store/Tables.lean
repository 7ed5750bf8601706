import Maildrop.Mailbox.Basic
import Maildrop.Mailbox.Summary
import Maildrop.Proofs.Mailbox.Removal
import Maildrop.Proofs.Submission.Outcome

/-!
# Programs on tables

The ledger of a database (`Maildrop.Store.Database.ledger`) says what programs do as long as
nothing but calls has changed the tables. This module says what they do to *any* tables: a
payload may have been overwritten, numbers may have gaps, and a sender may be missing.

* As long as there are tables, a program does to a database what it does to them
  (`Maildrop.Store.Database.eval_tables`).
* Getting or creating an address always succeeds, and the number of the address leads back
  to one (`Maildrop.Store.Tables.eval_getOrCreate`,
  `Maildrop.Store.Tables.isSome_address?_resolve`).
* A submission that can be read fails only if there is a row with the id of its content, and
  then says what it has found in the row (`Maildrop.Store.Tables.eval_accept`).
-/

namespace Maildrop

open Store (Action Call Client Database Failure MessageRow Server Tables)
open Submission (Error)

namespace Store

/-! ### Databases and their tables -/

/-- **Tables as a store.** -/
def Tables.server : Server Tables := ⟨Database.stepTables⟩

/-- A database of any version stands for its tables. -/
theorem Database.refines_tables (n : Nat) :
    Refines Database.backend Tables.server fun d t => d = ⟨n, some t⟩ where
  result := by
    rintro c _ t rfl
    rfl
  state := by
    rintro c _ t rfl
    rfl

/-- **A program does to a database what it does to its tables.** -/
theorem Database.eval_tables {α : Type} (p : Client α) (n : Nat) (t : Tables) :
    p.eval backend ⟨n, some t⟩ =
      ((p.eval Tables.server t).1, ⟨n, some (p.eval Tables.server t).2⟩) :=
  Prod.ext ((refines_tables n).eval p rfl).1 ((refines_tables n).eval p rfl).2

namespace Tables

variable (t : Tables)

/-! ### Rows -/

/-- The tables with one more message. -/
def add (m : NewMessage) : Tables := { t with messages := t.messages ++ [t.newRow m] }

variable {t}

theorem mem_of_row? {id : String} {r : MessageRow} (h : t.row? id = some r) : r ∈ t.messages :=
  List.mem_of_find?_eq_some h

theorem id_of_row? {id : String} {r : MessageRow} (h : t.row? id = some r) : r.id = id := by
  simpa using List.find?_some h

theorem row?_eq_none {id : String} : t.row? id = none ↔ ∀ r ∈ t.messages, r.id ≠ id := by
  simp [row?]

/-- A message that has been added can be found, if its id is new. -/
theorem row?_add {m : NewMessage} (h : t.row? m.id = none) :
    (t.add m).row? m.id = some (t.newRow m) := by
  have h' : t.messages.find? (fun r => r.id = m.id) = none := h
  rw [row?, add, List.find?_append, h']
  simp [newRow]

/-- A row that can be found still can be when a message has been added. -/
theorem row?_add_of_some {id : String} {r : MessageRow} (h : t.row? id = some r)
    (m : NewMessage) : (t.add m).row? id = some r := by
  have h' : t.messages.find? (fun r => r.id = id) = some r := h
  rw [row?, add, List.find?_append, h']
  rfl

/-- A message from a known sender is added, unless its id is in use. -/
theorem insert_of_known {m : NewMessage} (h : (t.address? m.senderId).isSome) :
    t.insert m = if (t.row? m.id).isSome then (.ok .duplicate, t) else (.ok .stored, t.add m) := by
  obtain ⟨a, ha⟩ := Option.isSome_iff_exists.mp h
  rw [insert, ha]
  split <;> rfl

/-! ### Addresses -/

variable (t)

/-- **The address that an email resolves to**: the one that there is, or the next one. -/
def resolve (email : String) (name : Option String) : Address :=
  (t.addressByEmail? (normalizeEmail email)).getD ⟨t.lastAddress + 1, normalizeEmail email, name⟩

/-- **The tables after an email has been resolved.** -/
def register (email : String) (name : Option String) : Tables :=
  (t.create (normalizeEmail email) name).2

variable {t}

/-- An address is made if the email is new; otherwise nothing happens. -/
theorem create_cases (t : Tables) (email : String) (name : Option String) :
    (t.addressByEmail? email = none ∧
      t.create email name = (.created ⟨t.lastAddress + 1, email, name⟩,
        { t with addresses := t.addresses ++ [⟨t.lastAddress + 1, email, name⟩]
                 lastAddress := t.lastAddress + 1 })) ∨
    ((∃ a, t.addressByEmail? email = some a) ∧ t.create email name = (.taken, t)) := by
  rw [create]
  rcases t.addressByEmail? email with _ | a
  · exact .inl ⟨rfl, rfl⟩
  · exact .inr ⟨⟨a, rfl⟩, rfl⟩

/-- Making an address leaves the messages alone. -/
@[simp] theorem messages_create (t : Tables) (email : String) (name : Option String) :
    (t.create email name).2.messages = t.messages := by
  rcases t.create_cases email name with ⟨-, h⟩ | ⟨-, h⟩ <;> rw [h]

/-- Resolving an email leaves the messages alone. -/
@[simp] theorem messages_register (t : Tables) (email : String) (name : Option String) :
    (t.register email name).messages = t.messages := t.messages_create _ _

/-- Resolving an email leaves every row where it can be found. -/
@[simp] theorem row?_register (t : Tables) (email : String) (name : Option String) (id : String) :
    (t.register email name).row? id = t.row? id := by
  rw [row?, messages_register]
  rfl

/-- Resolving an email leaves the addresses that there are. -/
theorem addresses_register (t : Tables) (email : String) (name : Option String) :
    (t.register email name).addresses = t.addresses ++
      if (t.addressByEmail? (normalizeEmail email)).isNone then [t.resolve email name]
      else [] := by
  rw [register, resolve]
  rcases t.create_cases (normalizeEmail email) name with ⟨hnew, h⟩ | ⟨⟨a, ha⟩, h⟩
  · rw [h, hnew]
    rfl
  · rw [h, ha]
    exact (List.append_nil _).symm

/-- A number that has an address keeps it when an email has been resolved. -/
theorem address?_register {id : Int} {a : Address} (h : t.address? id = some a) (email : String)
    (name : Option String) : (t.register email name).address? id = some a := by
  have h' : t.addresses.find? (fun a => a.id = id) = some a := h
  rw [address?, addresses_register, List.find?_append, h']
  rfl

/-- The number of the address that an email resolves to leads to an address. -/
theorem isSome_address?_resolve (t : Tables) (email : String) (name : Option String) :
    ((t.register email name).address? (t.resolve email name).id).isSome := by
  rw [address?, List.find?_isSome]
  refine ⟨t.resolve email name, ?_, by simp⟩
  rw [addresses_register, resolve]
  rcases ha : t.addressByEmail? (normalizeEmail email) with _ | a
  · exact List.mem_append_right _ (List.mem_singleton.mpr rfl)
  · exact List.mem_append_left _ (List.mem_of_find?_eq_some ha)

/-- **Getting or creating the address of an email** never fails. -/
theorem eval_getOrCreate (t : Tables) (email : String) (name : Option String) :
    (Registry.getOrCreate email name).eval server t =
      (.ok (t.resolve email name), t.register email name) := by
  have hlook : (server.step (.addressByEmail (normalizeEmail email)) t).result =
      .ok (t.addressByEmail? (normalizeEmail email)) := rfl
  rw [Registry.getOrCreate, Action.eval_ask_bind hlook, resolve, register]
  rcases t.create_cases (normalizeEmail email) name with ⟨hnew, h⟩ | ⟨⟨a, ha⟩, h⟩
  · have hcreate : (server.step (.createAddress (normalizeEmail email) name) t).result =
        .ok (.created ⟨t.lastAddress + 1, normalizeEmail email, name⟩) :=
      congrArg (fun x : Creation × Tables => Except.ok x.1) h
    rw [hnew]
    change (Registry.create (normalizeEmail email) name).eval server t = _
    rw [Registry.create, Action.eval_ask_bind hcreate]
    rfl
  · simp only [ha]
    rw [h]
    rfl

/-! ### Submissions -/

/-- Why a delivery of octets fails when there is a row with the id of its content. -/
def clash (r : MessageRow) (raw : Bytes) : Error :=
  match unpack r with
  | .ok stored => if stored = raw then .resubmission r.id else .idCollision r.id
  | .error f => .storage (f.within (.compareDuplicate r.id))

/-- A message that is in the way with the same octets is a resubmission. -/
theorem clash_of_packed {r : MessageRow} {raw : Bytes} (h : r.payload = .packed raw) :
    clash r raw = .resubmission r.id := by
  have hunpack : unpack r = .ok raw := by
    rw [unpack, h]
    rfl
  rw [clash, hunpack]
  exact if_pos rfl

/-- A message that is in the way is compared with the one delivered. -/
theorem eval_duplicate {id : String} {r : MessageRow} (h : t.row? id = some r) (raw : Bytes) :
    (Submission.duplicate id raw).eval server t = (.error (clash r raw), t) := by
  have hid := id_of_row? h
  have hraw : (server.step (.raw id) t).result = (unpack r).map some := by
    change t.raw id = _
    rw [Tables.raw, h]
  rw [Submission.duplicate, clash]
  rcases hunpack : unpack r with f | stored
  · rw [Action.eval_ask_bind_error (by rw [hraw, hunpack]; rfl), hid]
    rfl
  · rw [Action.eval_ask_bind (by rw [hraw, hunpack]; rfl), hid]
    rfl

/-- A message whose sender is known is added, unless its id is in use. -/
theorem eval_deposit {a : Address} (ha : (t.address? a.id).isSome) (e : Envelope) (d : Delivery) :
    (Submission.deposit a e d).eval server t =
      match t.row? (MessageId.ofContent d.octets) with
      | none =>
        (.ok (MessageId.ofContent d.octets), t.add (Submission.newMessage a e e.gist? d))
      | some r => (.error (clash r d.octets), t) := by
  rw [Submission.deposit, Action.eval_bind_ok (Submission.eval_gistFor ..)]
  generalize hm : Submission.newMessage a e e.gist? d = m
  have hid : m.id = MessageId.ofContent d.octets := by rw [← hm]; rfl
  have hraw : m.raw = d.octets := by rw [← hm]; rfl
  have hinsert := t.insert_of_known (m := m) (by rw [← hm]; exact ha)
  rw [← hid, ← hraw]
  rcases hr : t.row? m.id with _ | r
  · rw [hr] at hinsert
    have hresult : (server.step (.insert m) t).result = .ok .stored := congrArg Prod.fst hinsert
    rw [Action.eval_ask_bind hresult]
    exact congrArg (fun x : _ × Tables => (Except.ok m.id, x.2)) hinsert
  · rw [hr] at hinsert
    have hresult : (server.step (.insert m) t).result = .ok .duplicate :=
      congrArg Prod.fst hinsert
    rw [Action.eval_ask_bind hresult]
    change (Submission.duplicate m.id m.raw).eval server (t.insert m).2 = _
    rw [hinsert]
    exact eval_duplicate hr _

/-- **What a submission does to tables.** -/
theorem eval_accept (t : Tables) (sender : String) (d : Delivery) :
    (Submission.accept sender d).eval server t =
      match Submission.reading sender d with
      | .error e => (.error e, t)
      | .ok (claimed, envelope) =>
        match t.row? (MessageId.ofContent d.octets) with
        | none =>
          (.ok (MessageId.ofContent d.octets),
            (t.register claimed.email claimed.name).add
              (Submission.newMessage (t.resolve claimed.email claimed.name) envelope
                envelope.gist? d))
        | some r => (.error (clash r d.octets), t.register claimed.email claimed.name) := by
  rcases hreading : Submission.reading sender d with e | ⟨claimed, envelope⟩
  · rw [Submission.accept_of_reading_error hreading]
    rfl
  · rw [Submission.accept_of_reading_ok hreading]
    simp only [Action.eval_bind, Action.eval_record, eval_getOrCreate,
      eval_deposit (t.isSome_address?_resolve claimed.email claimed.name), row?_register]

/-- What has been found in the way of a message is no fault of the submitter. -/
theorem fault_clash_ne_client (r : MessageRow) (raw : Bytes) : (clash r raw).fault ≠ .client := by
  rw [clash]
  rcases unpack r with f | stored
  · exact fun h => nomatch h
  · dsimp only
    split
    · exact fun h => nomatch h
    · exact fun h => nomatch h

/-- **What becomes of a submission**: it cannot be read, and nothing happens; or its message is
added; or it fails by another fault than the submitter's, and no message comes or goes. -/
theorem accept_cases (sender : String) (d : Delivery) (t : Tables) :
    (∃ e, Submission.reading sender d = .error e ∧
      (Submission.accept sender d).eval server t = (.error e, t)) ∨
    ∃ x, Submission.reading sender d = .ok x ∧ ∃ t',
      ((∃ r, t'.messages = t.messages ++ [r] ∧ r.id = MessageId.ofContent d.octets ∧
          r.payload = .packed d.octets) ∧
        (Submission.accept sender d).eval server t =
          (.ok (MessageId.ofContent d.octets), t')) ∨
      ∃ e, e.fault ≠ .client ∧ t'.messages = t.messages ∧
        (Submission.accept sender d).eval server t = (.error e, t') := by
  rw [eval_accept]
  rcases Submission.reading sender d with e | ⟨claimed, envelope⟩
  · exact .inl ⟨e, rfl, rfl⟩
  · refine .inr ⟨(claimed, envelope), rfl, ?_⟩
    dsimp only
    rcases t.row? (MessageId.ofContent d.octets) with _ | r
    · refine ⟨_, .inl ⟨⟨(t.register claimed.email claimed.name).newRow (Submission.newMessage
        (t.resolve claimed.email claimed.name) envelope envelope.gist? d), ?_, rfl, rfl⟩, rfl⟩⟩
      rw [add, messages_register]
    · exact ⟨_, .inr ⟨_, fault_clash_ne_client r d.octets, t.messages_register _ _, rfl⟩⟩

/-- Where there are no tables nothing can be submitted. -/
theorem exists_eval_accept_error (sender : String) (d : Delivery) (n : Nat) :
    ∃ e, ((Submission.accept sender d).eval Database.backend ⟨n, none⟩).1 = .error e := by
  rcases hreading : Submission.reading sender d with e | ⟨claimed, envelope⟩
  · rw [Submission.accept_of_reading_error hreading]
    exact ⟨e, rfl⟩
  · have hlook : (Database.backend.step (.addressByEmail (normalizeEmail claimed.email))
        ⟨n, none⟩).result = .error ⟨.noTable "addresses", _⟩ := rfl
    have hget : (Registry.getOrCreate claimed.email claimed.name).eval Database.backend ⟨n, none⟩ =
        (.error (.storage _), _) := Action.eval_ask_bind_error hlook _ _
    rw [Submission.accept_of_reading_ok hreading,
      Action.eval_bind_ok (Action.eval_record Database.backend _ _),
      Action.eval_bind_error hget]
    exact ⟨_, rfl⟩

/-! ### The mailbox -/

/-- Removing messages deletes their rows. -/
theorem eval_remove (t : Tables) (ids : List String) :
    (Mailbox.remove ids).eval server t = (.ok (), t.without ids) := by
  have hafter : server.after (ids.map Call.delete) t = t.without ids := by
    induction ids generalizing t with
    | nil => exact t.without_nil.symm
    | cons id ids ih => exact (ih (t.delete id)).trans (t.delete_without id ids)
  rw [Mailbox.eval_remove_of_ok (I := fun _ => True) (fun _ _ _ => ⟨rfl, trivial⟩) ids trivial,
    hafter]

theorem eval_entries (t : Tables) :
    Mailbox.entries.eval server t = (.ok (t.previews.map fun p => ⟨p.id, p.size⟩), t) := rfl

theorem eval_summaries (t : Tables) :
    Mailbox.summaries.eval server t = (.ok (t.previews.map Mailbox.Summary.ofPreview), t) := rfl

theorem eval_content (t : Tables) (id : String) :
    (Mailbox.content id).eval server t = (t.raw id, t) := by
  rw [Mailbox.content, Action.eval_ask]
  change ((t.raw id).mapError _, t) = _
  rcases t.raw id with _ | _ <;> rfl

/-- A half of a message is what the content has of it. -/
theorem eval_half (t : Tables) (id : String) (half : Bytes → Bytes) :
    (do let raw ← Mailbox.content id; pure (raw.map half) : Action Failure (Option Bytes)).eval
      server t = ((t.raw id).map (Option.map half), t) := by
  rw [Action.eval_bind, eval_content]
  rcases t.raw id with _ | _ <;> rfl

theorem eval_headers (t : Tables) (id : String) :
    (Mailbox.headers id).eval server t =
      ((t.raw id).map (Option.map fun s => (Mailbox.split s).1), t) := t.eval_half id _

theorem eval_body (t : Tables) (id : String) :
    (Mailbox.body id).eval server t =
      ((t.raw id).map (Option.map fun s => (Mailbox.split s).2), t) := t.eval_half id _

/-- A message with its sender, which has to be there. -/
def detail (t : Tables) (id : String) : Except Failure (Option Mailbox.Detail) :=
  (t.message id).bind fun
    | none => .ok none
    | some m =>
      match t.address? m.senderId with
      | some a => .ok (some ⟨m, a⟩)
      | none => .error ⟨.lostSender id m.senderId, []⟩

theorem eval_detail (t : Tables) (id : String) :
    (Mailbox.detail id).eval server t = (t.detail id, t) := by
  rw [Mailbox.detail, detail]
  rcases hm : t.message id with f | _ | m
  · rw [Action.eval_ask_bind_error (e := f) hm]
    rfl
  · rw [Action.eval_ask_bind (a := none) hm]
    rfl
  · have hsender : (server.step (.address m.senderId) t).result = .ok (t.address? m.senderId) := rfl
    rw [Action.eval_ask_bind (a := some m) hm]
    change (Action.ask (.address m.senderId) _ >>= _).eval server t = _
    rw [Action.eval_ask_bind hsender]
    change _ = ((match t.address? m.senderId with
      | some a => .ok (some ⟨m, a⟩)
      | none => .error _ : Except Failure (Option Mailbox.Detail)), t)
    rcases t.address? m.senderId with _ | a <;> rfl

/-! ### Messages that are held -/

/-- **The tables hold octets under an id**, with the address of their sender. -/
def Holds (id : String) (raw : Bytes) (t : Tables) : Prop :=
  ∃ r a, t.row? id = some r ∧ r.payload = .packed raw ∧ t.address? r.senderId = some a

/-- A message that has been added is held, if its id is new and its sender known. -/
theorem holds_add {m : NewMessage} (hnew : t.row? m.id = none)
    (hsender : (t.address? m.senderId).isSome) : (t.add m).Holds m.id m.raw := by
  obtain ⟨a, ha⟩ := Option.isSome_iff_exists.mp hsender
  exact ⟨t.newRow m, a, row?_add hnew, rfl, ha⟩

/-- A submission that is stored is held under its id. -/
theorem holds_register_add {d : Delivery}
    (hnew : t.row? (MessageId.ofContent d.octets) = none) (claimed : Sender) (envelope : Envelope) :
    ((t.register claimed.email claimed.name).add
      (Submission.newMessage (t.resolve claimed.email claimed.name) envelope envelope.gist?
        d)).Holds (MessageId.ofContent d.octets) d.octets :=
  holds_add (by rwa [row?_register]) (t.isSome_address?_resolve claimed.email claimed.name)

variable {id : String} {raw : Bytes}

theorem Holds.raw_eq (h : t.Holds id raw) : t.raw id = .ok (some raw) := by
  obtain ⟨r, a, hr, hpayload, -⟩ := h
  rw [Tables.raw, hr]
  dsimp only
  rw [unpack, hpayload]
  rfl

theorem Holds.message_eq (h : t.Holds id raw) :
    ∃ m a, t.message id = .ok (some m) ∧ m.id = id ∧ m.raw = raw ∧
      t.address? m.senderId = some a := by
  obtain ⟨r, a, hr, hpayload, ha⟩ := h
  refine ⟨⟨r.id, r.senderId, r.subjectPreview, r.bodyPreview, r.size, arrival r, raw⟩, a, ?_,
    id_of_row? hr, rfl, ha⟩
  rw [message, hr]
  dsimp only
  rw [unpack, hpayload]
  rfl

/-- A message whose sender is there can be shown. -/
theorem detail_of_message {m : Message} {a : Address} (hm : t.message id = .ok (some m))
    (ha : t.address? m.senderId = some a) : t.detail id = .ok (some ⟨m, a⟩) := by
  rw [detail, hm]
  change (match t.address? m.senderId with
    | some a => .ok (some ⟨m, a⟩)
    | none => .error _ : Except Failure (Option Mailbox.Detail)) = _
  rw [ha]

/-- An address that has been resolved, and a message that is new, leave what is held. -/
theorem Holds.register (h : t.Holds id raw) (email : String) (name : Option String) :
    (t.register email name).Holds id raw := by
  obtain ⟨r, a, hr, hpayload, ha⟩ := h
  exact ⟨r, a, by rwa [row?_register], hpayload, address?_register ha email name⟩

theorem Holds.add (h : t.Holds id raw) (m : NewMessage) : (t.add m).Holds id raw := by
  obtain ⟨r, a, hr, hpayload, ha⟩ := h
  exact ⟨r, a, row?_add_of_some hr m, hpayload, ha⟩

/-- **What is held stays held** when other messages are deleted. -/
theorem Holds.filter (h : t.Holds id raw) {ids : List String} (hid : id ∉ ids) :
    ({ t with messages := t.messages.filter fun r => r.id ∉ ids } : Tables).Holds id raw := by
  obtain ⟨r, a, hr, hpayload, ha⟩ := h
  refine ⟨r, a, ?_, hpayload, ha⟩
  have hr' : t.messages.find? (fun r => r.id = id) = some r := hr
  rw [row?, List.find?_filter, ← hr']
  refine congrArg (fun q => t.messages.find? q) (funext fun s => ?_)
  by_cases hs : s.id = id
  · simp [hs, hid]
  · simp [hs]

/-- **What is held stays held** when anything is submitted. -/
theorem Holds.accept (h : t.Holds id raw) (sender : String) (d : Delivery) :
    ((Submission.accept sender d).eval server t).2.Holds id raw := by
  rw [eval_accept]
  rcases Submission.reading sender d with e | ⟨claimed, envelope⟩
  · exact h
  · dsimp only
    rcases t.row? (MessageId.ofContent d.octets) with _ | r
    · exact (h.register ..).add _
    · exact h.register ..

/-- **What is stored is held**: its submission could be read, and its id is that of the octets. -/
theorem holds_of_accept {sender : String} {d : Delivery}
    (h : ((Submission.accept sender d).eval server t).1 = .ok id) :
    (∃ x, Submission.reading sender d = .ok x) ∧ id = MessageId.ofContent d.octets ∧
      ((Submission.accept sender d).eval server t).2.Holds id d.octets := by
  rw [eval_accept] at h ⊢
  rcases hreading : Submission.reading sender d with e | ⟨claimed, envelope⟩ <;> rw [hreading] at h
  · exact absurd h (by simp)
  · dsimp only at h ⊢
    rcases hrow : t.row? (MessageId.ofContent d.octets) with _ | r <;> rw [hrow] at h
    · obtain rfl := Except.ok.inj h
      exact ⟨⟨_, rfl⟩, rfl, holds_register_add hrow claimed envelope⟩
    · exact absurd h (by simp)

/-! ### Messages that are lost -/

/-- **The octets of a message cannot be unpacked.** -/
def Lost (id : String) (t : Tables) : Prop :=
  ∃ r, t.row? id = some r ∧ r.payload.unpack? = none

/-- Why the octets of a message cannot be had. -/
def loss (id : String) : Failure := ⟨.undecodable, [.decodeMessage id]⟩

theorem Lost.exists_unpack (h : t.Lost id) :
    ∃ r, t.row? id = some r ∧ unpack r = .error (loss id) := by
  obtain ⟨r, hr, hlost⟩ := h
  refine ⟨r, hr, ?_⟩
  rw [unpack, hlost, id_of_row? hr]
  rfl

theorem Lost.raw_eq (h : t.Lost id) : t.raw id = .error (loss id) := by
  obtain ⟨r, hr, hunpack⟩ := h.exists_unpack
  rw [Tables.raw, hr]
  dsimp only
  rw [hunpack]
  rfl

theorem Lost.message_eq (h : t.Lost id) : t.message id = .error (loss id) := by
  obtain ⟨r, hr, hunpack⟩ := h.exists_unpack
  rw [message, hr]
  dsimp only
  rw [hunpack]
  rfl

theorem Lost.detail_eq (h : t.Lost id) : t.detail id = .error (loss id) := by
  rw [detail, h.message_eq]
  rfl

end Tables

end Store

end Maildrop
