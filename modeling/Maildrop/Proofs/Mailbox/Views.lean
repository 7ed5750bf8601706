import Maildrop.Mailbox.Basic
import Maildrop.Mailbox.Summary
import Maildrop.Proofs.Store.Action
import Maildrop.Proofs.Store.History

/-!
# The views of a mailbox

A store is read in a dozen ways: by listings of its own and of the mailbox, by counting,
by asking for an id or for the message, the octets, the header block or the body under
it, and by showing a message with its sender. `Maildrop.Mailbox.Views` says that all of
them show the same messages, each with what was stored.

On a store of either kind that any calls have filled, the messages shown are those that
stand after the history of the calls (`Maildrop.Mailbox.views`). So nothing that fails or
is turned away is ever seen, no listing drops a message, and no message that is listed
lacks its sender.
-/

namespace Maildrop.Mailbox

open Store (Action Call Ledger Medium Rules)

variable {k : Medium} {s : k.State}

/-- **The views of a state show some messages**, each with what was stored. -/
structure Views (k : Medium) (s : k.State) (shown : List NewMessage) : Prop where
  /-- No id is shown twice. -/
  unique : (shown.map NewMessage.id).Nodup
  /-- The listing has an entry for each message, in their order. -/
  previews : ∃ ps, k.ask .previews s = .ok ps ∧
    List.Forall₂ (fun m p => k.ask (.address m.senderId) s = .ok (some p.sender) ∧
      p.sender.id = m.senderId ∧ p = m.stored.preview p.sender) shown ps
  /-- As many messages are counted as are shown. -/
  count : k.ask .count s = .ok shown.length
  /-- A message that is shown is there, whole and in parts. -/
  present : ∀ m ∈ shown,
    k.ask (.has m.id) s = .ok true ∧
    k.ask (.message m.id) s = .ok (some m.stored) ∧
    k.ask (.raw m.id) s = .ok (some m.raw) ∧
    ((content m.id).eval k.backend s).1 = .ok (some m.raw) ∧
    ((headers m.id).eval k.backend s).1 = .ok (some (split m.raw).1) ∧
    ((body m.id).eval k.backend s).1 = .ok (some (split m.raw).2)
  /-- No other id leads to anything. -/
  absent : ∀ id, id ∉ shown.map NewMessage.id →
    k.ask (.has id) s = .ok false ∧
    k.ask (.message id) s = .ok none ∧
    k.ask (.raw id) s = .ok none ∧
    ((content id).eval k.backend s).1 = .ok none ∧
    ((headers id).eval k.backend s).1 = .ok none ∧
    ((body id).eval k.backend s).1 = .ok none ∧
    ((detail id).eval k.backend s).1 = .ok none
  /-- The mailbox lists each message with its size. -/
  entries : (entries.eval k.backend s).1 = .ok (shown.map fun m => ⟨m.id, m.raw.length⟩)
  /-- The summaries are those of the listing, so each has the size of its message. -/
  summaries : ∃ ss, (summaries.eval k.backend s).1 = .ok ss ∧
    List.Forall₂ (fun m x => x.id = m.id ∧ x.size = m.raw.length) shown ss
  /-- A message is shown with the sender that the listing shows. -/
  detail : ∀ m ∈ shown, ∃ a, ((detail m.id).eval k.backend s).1 = .ok (some ⟨m.stored, a⟩) ∧
    ∀ ps, k.ask .previews s = .ok ps → ∀ p ∈ ps, p.id = m.id → p.sender = a

/-! ### The views of a ledger -/

section Ledger

variable (r : Rules) (l : Ledger)

theorem eval_content (id : String) :
    (content id).eval r.server l = (.ok ((l.message? id).map Message.raw), l) := rfl

theorem eval_headers (id : String) :
    (headers id).eval r.server l =
      (.ok ((l.message? id).map fun m => (split m.raw).1), l) := by
  rw [headers, Action.eval_bind, eval_content]
  exact congrArg (fun x => (Except.ok x, l)) (Option.map_map ..)

theorem eval_body (id : String) :
    (body id).eval r.server l = (.ok ((l.message? id).map fun m => (split m.raw).2), l) := by
  rw [body, Action.eval_bind, eval_content]
  exact congrArg (fun x => (Except.ok x, l)) (Option.map_map ..)

theorem eval_entries :
    entries.eval r.server l = (.ok (l.previews.map fun p => ⟨p.id, p.size⟩), l) := rfl

theorem eval_summaries :
    summaries.eval r.server l = (.ok (l.previews.map Summary.ofPreview), l) := rfl

theorem eval_detail_of_none {id : String} (h : l.message? id = none) :
    (detail id).eval r.server l = (.ok none, l) := by
  have hask : (r.server.step (.message id) l).result = .ok none := congrArg Except.ok h
  rw [detail, Action.eval_ask_bind hask]
  rfl

/-- A message is shown with its sender, if the sender is known. -/
theorem eval_detail_of_some {id : String} {m : Message} {a : Address}
    (hm : l.message? id = some m) (ha : l.address? m.senderId = some a) :
    (detail id).eval r.server l = (.ok (some ⟨m, a⟩), l) := by
  have hmessage : (r.server.step (.message id) l).result = .ok (some m) := congrArg Except.ok hm
  have hsender : (r.server.step (.address m.senderId) l).result = .ok (some a) :=
    congrArg Except.ok ha
  rw [detail, Action.eval_ask_bind hmessage]
  exact Action.eval_ask_bind hsender _ _

end Ledger

/-! ### The views of a store -/

/-- **A valid store shows the messages of its ledger.** -/
theorem views_of_messages {shown : List NewMessage} (h : k.Valid s)
    (hm : (k.ledger s).messages = shown.map NewMessage.stored) : Views k s shown := by
  have hfound : ∀ m ∈ shown, (k.ledger s).message? m.id = some m.stored := fun m hmem =>
    Ledger.message?_of_mem h.sound.unique (m := m.stored)
      (by rw [hm]; exact List.mem_map_of_mem hmem)
  have hlost : ∀ id, id ∉ shown.map NewMessage.id → (k.ledger s).message? id = none := by
    refine fun id hid => Ledger.message?_eq_none.mpr fun m hmem heq => hid ?_
    rw [hm] at hmem
    obtain ⟨m', hm', rfl⟩ := List.mem_map.mp hmem
    exact List.mem_map.mpr ⟨m', hm', heq⟩
  have hlisted := h.sound.forall₂_previews
  rw [hm] at hlisted
  replace hlisted := List.forall₂_map_left_iff.mp hlisted
  have heval {α : Type} (p : Store.Action Store.Failure α) :
      (p.eval k.backend s).1 = (p.eval k.rules.server (k.ledger s)).1 := (h.eval_eq p).1
  have hhas (id : String) : k.ask (.has id) s = .ok ((k.ledger s).message? id).isSome :=
    h.ask_eq _
  have hmessage (id : String) : k.ask (.message id) s = .ok ((k.ledger s).message? id) :=
    h.ask_eq _
  have hraw (id : String) : k.ask (.raw id) s = .ok (((k.ledger s).message? id).map Message.raw) :=
    h.ask_eq _
  constructor
  case unique =>
    have hunique := h.sound.unique
    rw [hm, List.map_map] at hunique
    exact hunique
  case previews =>
    refine ⟨_, h.ask_eq _, hlisted.imp fun m p hmp => ?_⟩
    obtain ⟨a, ha, rfl⟩ := hmp
    exact ⟨(h.ask_eq _).trans (congrArg Except.ok ha), Ledger.id_of_address? ha, rfl⟩
  case count =>
    refine (h.ask_eq _).trans (congrArg Except.ok ?_)
    rw [hm, List.length_map]
  case present =>
    intro m hmem
    have hf := hfound m hmem
    simp only [hhas, hmessage, hraw, heval, eval_content, eval_headers, eval_body, hf,
      Option.isSome_some, Option.map_some]
    simp only [NewMessage.stored, and_self]
  case absent =>
    intro id hid
    have hl := hlost id hid
    simp only [hhas, hmessage, hraw, heval, eval_content, eval_headers, eval_body,
      eval_detail_of_none _ _ hl, hl, Option.isSome_none, Option.map_none, and_self]
  case entries =>
    rw [heval, eval_entries, h.sound.linked.map_previews (g := fun m => ⟨m.id, m.size⟩)
      fun _ _ => rfl, hm, List.map_map]
    rfl
  case summaries =>
    rw [heval, eval_summaries]
    refine ⟨_, rfl, List.forall₂_map_right_iff.mpr (hlisted.imp fun m p hmp => ?_)⟩
    obtain ⟨a, -, rfl⟩ := hmp
    exact ⟨rfl, rfl⟩
  case detail =>
    intro m hmem
    have hf := hfound m hmem
    have hstored : m.stored ∈ (k.ledger s).messages := by
      rw [hm]
      exact List.mem_map_of_mem hmem
    obtain ⟨a, ha⟩ := Option.isSome_iff_exists.mp (h.sound.known m.stored hstored)
    refine ⟨a, by rw [heval, eval_detail_of_some _ _ hf ha], fun ps hps p hp hid => ?_⟩
    -- an entry under the id of the message is that of the message, and has its sender
    rw [h.ask_eq] at hps
    obtain rfl : (k.ledger s).previews = ps := Except.ok.inj hps
    obtain ⟨m', hm', hp'⟩ := List.mem_filterMap.mp hp
    obtain ⟨a', ha', rfl⟩ := Option.map_eq_some_iff.mp hp'
    obtain rfl : m' = m.stored := List.inj_on_of_nodup_map h.sound.unique hm' hstored hid
    exact Option.some.inj (ha'.symm.trans ha)

/-- **All views of a mailbox agree with its history**: on a store of either kind that any
calls have filled, they show the messages that stand after the calls. -/
theorem views (k : Medium) (cs : List Call) :
    Views k (k.after cs) (Store.standing (k.history cs)) :=
  views_of_messages (k.valid_after cs) (k.messages_after cs)

end Maildrop.Mailbox
