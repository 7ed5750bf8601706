import Maildrop.Proofs.Store.Tables
import Maildrop.Store.Damage

/-!
# Damage to a payload

Two databases that are the same once the payload of a message has been made undecodable in
both differ at most in that payload (`Maildrop.Store.Database.SameBut`). What is left when a
payload has been made undecodable is the *veiled* table (`Maildrop.Store.Tables.veil`), and
every call does to tables what it does to veiled ones, as far as can be seen through the
veil (`Maildrop.Store.Tables.veil_step`). Only the two calls that read the payload are
answered otherwise (`Maildrop.Store.Tables.result_step_veil`).

The same is said of programs (`Maildrop.Store.Tables.Hides`). It holds of a submission as
well, though that may read the payload: when it does, it has failed already, and all that
the payload decides is for which reason (`Maildrop.Store.Tables.hides_accept`).
-/

namespace Maildrop

open Store (Action Call Client Database Failure MessageRow Server Tables)

namespace Store

/-- **The databases differ at most in the payload of a message.** -/
def Database.SameBut (id : String) (d d' : Database) : Prop :=
  (d.damagePayload id).2 = (d'.damagePayload id).2

/-- Whether a call reads the payload of a message. -/
def Call.reads (id : String) : Call → Bool
  | .message x | .raw x => x = id
  | _ => false

/-! ### The veil -/

/-- The row without its payload, if it is that of a message. -/
def MessageRow.veil (id : String) (r : MessageRow) : MessageRow :=
  if r.id = id then { r with payload := .damaged } else r

namespace MessageRow

variable (id : String) (r : MessageRow)

@[simp] theorem id_veil : (r.veil id).id = r.id := by
  rw [veil]
  split <;> rfl

@[simp] theorem rowid_veil : (r.veil id).rowid = r.rowid := by
  rw [veil]
  split <;> rfl

@[simp] theorem veil_veil : (r.veil id).veil id = r.veil id := by
  rw [veil, veil]
  split <;> simp_all

theorem veil_of_ne {id : String} {r : MessageRow} (h : r.id ≠ id) : r.veil id = r := if_neg h

end MessageRow

namespace Tables

/-- The tables without the payload of a message. -/
def veil (id : String) (t : Tables) : Tables :=
  { t with messages := t.messages.map (MessageRow.veil id) }

variable (id : String) (t : Tables)

@[simp] theorem veil_veil : (t.veil id).veil id = t.veil id := by
  simp only [veil, List.map_map]
  congr 1
  exact List.map_congr_left fun r _ => r.veil_veil id

@[simp] theorem row?_veil (x : String) :
    (t.veil id).row? x = (t.row? x).map (MessageRow.veil id) := by
  rw [row?, veil, List.find?_map, row?]
  congr 1
  exact congrArg (fun p => t.messages.find? p) (funext fun r => by simp)

@[simp] theorem isSome_row?_veil (x : String) :
    ((t.veil id).row? x).isSome = (t.row? x).isSome := by
  rw [row?_veil, Option.isSome_map]

/-- A row of another message is not veiled. -/
theorem row?_veil_of_ne {id x : String} (h : x ≠ id) : (t.veil id).row? x = t.row? x := by
  rw [row?_veil]
  rcases hr : t.row? x with _ | r
  · rfl
  · rw [Option.map_some, MessageRow.veil_of_ne (by rwa [id_of_row? hr])]

theorem nextRow_veil : (t.veil id).nextRow = t.nextRow := by
  rw [nextRow, nextRow, veil, List.map_map]
  congr 2
  exact List.map_congr_left fun r _ => r.rowid_veil id

theorem newRow_veil (m : NewMessage) : (t.veil id).newRow m = t.newRow m := by
  rw [newRow, newRow, nextRow_veil]

theorem veil_add (m : NewMessage) : ((t.veil id).add m).veil id = (t.add m).veil id := by
  have hmessages := congrArg Tables.messages (t.veil_veil id)
  simp only [add, veil, List.map_append] at hmessages ⊢
  rw [hmessages, show Tables.newRow { t with messages := t.messages.map (MessageRow.veil id) } m =
    t.newRow m from t.newRow_veil id m]

theorem veil_without (ids : List String) :
    (t.veil id).without ids = (t.without ids).veil id := by
  simp only [without, veil, List.filter_map]
  congr 2
  exact List.filter_congr fun r _ => by simp

theorem veil_delete (x : String) : (t.veil id).delete x = (t.delete x).veil id := by
  rw [delete_eq, delete_eq, veil_without]

theorem veil_create (email : String) (name : Option String) :
    (t.veil id).create email name =
      ((t.create email name).1, (t.create email name).2.veil id) := by
  have hlook : (t.veil id).addressByEmail? email = t.addressByEmail? email := rfl
  rw [create, create, hlook]
  split <;> rfl

theorem veil_register (email : String) (name : Option String) :
    (t.veil id).register email name = (t.register email name).veil id :=
  congrArg Prod.snd (t.veil_create id _ name)

/-- A listing shows nothing of a payload. -/
theorem previews_veil : (t.veil id).previews = t.previews := by
  have hsort := List.map_mergeSort (f := MessageRow.veil id) (r := fun x y => x.rowid ≤ y.rowid)
    (s := fun x y => x.rowid ≤ y.rowid) (l := t.messages) (by simp)
  have hpreview : (t.veil id).preview? ∘ MessageRow.veil id = t.preview? := by
    funext r
    simp only [Function.comp_apply, preview?, MessageRow.veil]
    split <;> rfl
  rw [previews, veil, ← hsort, List.filterMap_map]
  change List.filterMap ((t.veil id).preview? ∘ MessageRow.veil id) _ = _
  rw [hpreview, previews]

/-! ### Calls -/

/-- **Every call does to veiled tables what it does to the tables**, as far as can be seen
through the veil. -/
theorem veil_step (c : Call) :
    (server.step c (t.veil id)).state.veil id = (server.step c t).state.veil id := by
  cases c with
  | createAddress email name =>
    change ((t.veil id).create email name).2.veil id = _
    rw [veil_create, veil_veil]
    rfl
  | insert m =>
    change ((t.veil id).insert m).2.veil id = (t.insert m).2.veil id
    have hsender : (t.veil id).address? m.senderId = t.address? m.senderId := rfl
    rw [insert, insert, isSome_row?_veil, hsender]
    split
    · exact t.veil_veil id
    · split
      · exact t.veil_veil id
      · exact t.veil_add id m
  | delete x =>
    change ((t.veil id).delete x).veil id = (t.delete x).veil id
    rw [veil_delete, veil_veil]
  | _ => exact t.veil_veil id

variable {id}

/-- **A call that does not read the payload is answered the same.** -/
theorem result_step_veil {c : Call} (hc : c.reads id = false) :
    (server.step c (t.veil id)).result = (server.step c t).result := by
  cases c with
  | createAddress email name =>
    change Except.ok ((t.veil id).create email name).1 = _
    rw [veil_create]
    rfl
  | insert m =>
    change ((t.veil id).insert m).1 = (t.insert m).1
    have hsender : (t.veil id).address? m.senderId = t.address? m.senderId := rfl
    rw [insert, insert, isSome_row?_veil, hsender]
    split
    · rfl
    · split <;> rfl
  | message x =>
    change (t.veil id).message x = t.message x
    rw [message, message, t.row?_veil_of_ne (of_decide_eq_false hc)]
  | raw x =>
    change (t.veil id).raw x = t.raw x
    rw [raw, raw, t.row?_veil_of_ne (of_decide_eq_false hc)]
  | has x => exact congrArg Except.ok (t.isSome_row?_veil id x)
  | previews => exact congrArg Except.ok (t.previews_veil id)
  | count => exact congrArg Except.ok (List.length_map ..)
  | _ => rfl

/-! ### Programs -/

/-- **A program hides a payload** behind the relation `R` if its values on tables and on
veiled tables are related, and the tables afterwards are the same through the veil. -/
def Hides {α : Type} (id : String) (R : α → α → Prop) (p : Client α) : Prop :=
  ∀ t : Tables, R (p.eval server (t.veil id)).1 (p.eval server t).1 ∧
    (p.eval server (t.veil id)).2.veil id = (p.eval server t).2.veil id

variable {α β : Type} {R : α → α → Prop} {S : β → β → Prop} {p : Client α}

/-- A program that does nothing to the store hides everything. -/
theorem hides_pure {a : α} (h : R a a) : Hides id R (pure a) := fun t => ⟨h, t.veil_veil id⟩

theorem hides_record (r : LogRecord) : Hides id Eq (Program.record r) := fun t =>
  ⟨rfl, t.veil_veil id⟩

theorem hides_ask (c : Call) : Hides id (fun x y => c.reads id = false → x = y) (Program.ask c) :=
  fun t => ⟨t.result_step_veil, t.veil_step id c⟩

/-- What comes of a value hides what the value hides. -/
theorem Hides.map (h : Hides id R p) {f : α → β} (hf : ∀ x y, R x y → S (f x) (f y)) :
    Hides id S (p >>= fun a => pure (f a)) := fun t => by
  rw [Program.eval_bind, Program.eval_bind]
  exact ⟨hf _ _ (h t).1, (h t).2⟩

theorem Hides.mono (h : Hides id R p) {R' : α → α → Prop} (hR : ∀ x y, R x y → R' x y) :
    Hides id R' p := fun t => ⟨hR _ _ (h t).1, (h t).2⟩

theorem hides_getOrCreate (email : String) (name : Option String) :
    Hides id Eq (Registry.getOrCreate email name).run := fun t => by
  rw [Action.eval_run, Action.eval_run, eval_getOrCreate, eval_getOrCreate, veil_register,
    veil_veil]
  exact ⟨rfl, rfl⟩

theorem hides_remove (ids : List String) : Hides id Eq (Mailbox.remove ids).run := fun t => by
  rw [Action.eval_run, Action.eval_run, eval_remove, eval_remove, veil_without, veil_veil]
  exact ⟨rfl, rfl⟩

/-- A call whose answer is handed on hides what the call hides. -/
theorem hides_handed {ε : Type} (c : Call) (onFailure : Failure → ε) :
    Hides id (fun x y => c.reads id = false → x = y) (Action.ask c onFailure).run :=
  (hides_ask c).map fun _ _ h hc => congrArg (Except.mapError onFailure) (h hc)

theorem hides_content (x : String) :
    Hides id (fun a b => x ≠ id → a = b) (Mailbox.content x).run :=
  (hides_handed (.raw x) _).mono fun _ _ h hx => h (decide_eq_false hx)

theorem hides_half (x : String) (half : Bytes → Bytes) :
    Hides id (fun a b => x ≠ id → a = b)
      (do let raw ← Mailbox.content x; pure (raw.map half) : Action Failure (Option Bytes)).run :=
  fun t => by
    rw [Action.eval_run, Action.eval_run, eval_half, eval_half]
    refine ⟨fun hx => ?_, t.veil_veil id⟩
    rw [raw, raw, t.row?_veil_of_ne hx]

theorem hides_entries : Hides id Eq Mailbox.entries.run := fun t => by
  rw [Action.eval_run, Action.eval_run, eval_entries, eval_entries, previews_veil]
  exact ⟨rfl, t.veil_veil id⟩

theorem hides_summaries : Hides id Eq Mailbox.summaries.run := fun t => by
  rw [Action.eval_run, Action.eval_run, eval_summaries, eval_summaries, previews_veil]
  exact ⟨rfl, t.veil_veil id⟩

theorem hides_detail (x : String) :
    Hides id (fun a b => x ≠ id → a = b) (Mailbox.detail x).run := fun t => by
  rw [Action.eval_run, Action.eval_run, eval_detail, eval_detail]
  refine ⟨fun hx => ?_, t.veil_veil id⟩
  rw [detail, detail, message, message, t.row?_veil_of_ne hx]
  rfl

/-- **A submission hides a payload** from everyone who submits something else, and what
becomes of the session from everyone. -/
theorem hides_accept (sender : String) (d : Delivery) :
    Hides id (fun x y => Session.ofVerdict x = Session.ofVerdict y ∧
        (MessageId.ofContent d.octets ≠ id → x = y))
      (Submission.accept sender d).run := fun t => by
  rw [Action.eval_run, Action.eval_run, eval_accept, eval_accept, row?_veil]
  rcases Submission.reading sender d with e | ⟨claimed, envelope⟩
  · exact ⟨⟨rfl, fun _ => rfl⟩, t.veil_veil id⟩
  · rcases hr : t.row? (MessageId.ofContent d.octets) with _ | r
    · dsimp only [Option.map_none]
      rw [veil_register, veil_add]
      exact ⟨⟨rfl, fun _ => rfl⟩, rfl⟩
    · dsimp only [Option.map_some]
      rw [veil_register, veil_veil]
      refine ⟨⟨rfl, fun hid => ?_⟩, rfl⟩
      rw [MessageRow.veil_of_ne (by rwa [id_of_row? hr])]

end Tables

/-! ### Databases -/

/-- Databases that differ at most in a payload are equal, or have tables that are the same
through the veil. -/
theorem Database.SameBut.cases {id : String} {d d' : Database} (h : SameBut id d d') :
    d = d' ∧ d.tables = none ∨
      ∃ n t t', d = ⟨n, some t⟩ ∧ d' = ⟨n, some t'⟩ ∧ t.veil id = t'.veil id := by
  obtain ⟨n, t | t⟩ := d <;> obtain ⟨n', t' | t'⟩ := d'
  · exact .inl ⟨h, rfl⟩
  · exact absurd (congrArg Database.tables h) (by simp [damagePayload, modifyRow, modify])
  · exact absurd (congrArg Database.tables h) (by simp [damagePayload, modifyRow, modify])
  · obtain rfl : n = n' := congrArg Database.schema h
    exact .inr ⟨n, t, t', rfl, rfl, Option.some.inj (congrArg Database.tables h)⟩

theorem Database.sameBut_of_veil {id : String} {t t' : Tables} (n : Nat)
    (h : t.veil id = t'.veil id) : SameBut id ⟨n, some t⟩ ⟨n, some t'⟩ :=
  congrArg (fun t => (⟨n, some t⟩ : Database)) h

end Store

end Maildrop
