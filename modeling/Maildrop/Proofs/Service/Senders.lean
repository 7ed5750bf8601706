import Maildrop.Proofs.Mailbox.Views
import Maildrop.Proofs.Sender
import Maildrop.Proofs.Service.Ingested

/-!
# The senders of a service

A service shows the sender of each message as a text. Where every address has come from the
text of a sender (`Maildrop.Event.FromSenders`), this text can be read back, and what is
read is the name and the email that are stored for the sender of the message
(`Maildrop.Service.senders_read_back`).

The store itself has no part in this: it keeps the name and the email that it is given. So it
is enough that what is given can be read back, which is so for everything that has been read
(`Maildrop.Sender.parse?_display`).
-/

namespace Maildrop

open Store (Call Ledger Medium Rules)

/-- **An event that brings an address only with the text of a sender**: any event but the
registry's, and a direct call that makes an address. -/
def Event.FromSenders : Event → Prop
  | .getOrCreate _ _ => False
  | .call (.createAddress _ _) => False
  | _ => True

/-- The call makes no address but one that can be read back. -/
def Store.Call.ReadsBack : Call → Prop
  | .createAddress email name => ∀ id, Sender.parse? (Address.display ⟨id, email, name⟩) =
      some ⟨name, email⟩
  | _ => True

theorem Store.permits_readsBack : Store.Permits Call.ReadsBack where
  address _ := trivial
  message _ := trivial
  raw _ := trivial
  delete _ := trivial
  previews := trivial
  insert _ _ _ _ _ := trivial

/-- What a sender claims is registered under a name and an email that can be read back. -/
theorem Store.admitsSender_readsBack (sender : String) :
    Store.AdmitsSender Call.ReadsBack sender := fun _ h =>
  ⟨trivial, fun _ => Sender.parse?_display (Sender.wellFormed_of_parse? h).normalize⟩

theorem Event.FromSenders.admitted {e : Event} (h : e.FromSenders) :
    e.Admitted Call.ReadsBack := by
  cases e with
  | hear n sender => exact Store.admitsSender_readsBack sender
  | submit sender d => exact Store.admitsSender_readsBack sender
  | getOrCreate email name => exact h.elim
  | find email => exact trivial
  | call c =>
    cases c with
    | createAddress email name => exact h.elim
    | _ => exact trivial
  | _ => exact trivial

/-- An address that is there after a call was there before, or is the one that the call has
made. -/
theorem Store.Rules.mem_addresses_stamping {r : Rules} {l : Ledger} {now : Instant} {c : Call}
    {a : Address} (ha : a ∈ ((r.server.stamping now).step c l).state.addresses) :
    a ∈ l.addresses ∨ ∃ email name, c = .createAddress email name ∧
      a = l.newAddress email name := by
  cases c with
  | createAddress email name =>
    change a ∈ (r.create l email name).2.addresses at ha
    obtain ⟨-, heq⟩ | ⟨-, heq⟩ := r.create_cases l email name
    · rw [heq] at ha
      rcases List.mem_append.mp ha with ha | ha
      · exact .inl ha
      · exact .inr ⟨email, name, rfl, List.mem_singleton.mp ha⟩
    · rw [heq] at ha
      exact .inl ha
  | insert m =>
    change a ∈ (r.insert l { m with receivedAt := now }).2.addresses at ha
    obtain ⟨-, -, heq⟩ | ⟨x, -, heq⟩ := r.insert_cases l { m with receivedAt := now } <;>
      (rw [heq] at ha; exact .inl ha)
  | _ => exact .inl ha

namespace Service

/-- **Every address that such a service has stored can be read back.** -/
theorem addresses_read_back (k : Medium) {es : List (Instant × Event)}
    (hes : ∀ x ∈ es, x.2.FromSenders) :
    k.Valid (k.serve es).2.store ∧ ∀ a ∈ (k.ledger (k.serve es).2.store).addresses,
      Sender.parse? a.display = some ⟨a.name, a.email⟩ := by
  refine ⟨k.valid_serve es, serve_keeps Store.permits_readsBack
    (I := fun l => ∀ a ∈ l.addresses, Sender.parse? a.display = some ⟨a.name, a.email⟩)
    (by simp) (fun now c l hc hl a ha => ?_) fun x hx => (hes x hx).admitted⟩
  obtain ha | ⟨email, name, rfl, rfl⟩ := Rules.mem_addresses_stamping ha
  · exact hl a ha
  · exact hc _

/-- **Senders that are shown can be read back.** What a text claims is read back from the
address of the claim, with the email in normal form. So in every store that has its addresses
from the texts of senders only, whatever else has happened to it, each summary has a sender
that is read as the name and the email that the store holds for the sender of the message. -/
theorem senders_read_back (k : Medium) {es : List (Instant × Event)}
    (hes : ∀ x ∈ es, x.2.FromSenders) :
    (∀ text claimed, Sender.parse? text = some claimed →
      (∀ id, Sender.parse? (Address.display ⟨id, normalizeEmail claimed.email, claimed.name⟩) =
        some ⟨claimed.name, normalizeEmail claimed.email⟩) ∧
      normalizeEmail (normalizeEmail claimed.email) = normalizeEmail claimed.email) ∧
    ∃ shown, (Mailbox.summaries.eval k.backend (k.serve es).2.store).1 = .ok shown ∧
      ∀ x ∈ shown, ∃ m a, k.ask (.message x.id) (k.serve es).2.store = .ok (some m) ∧
        k.ask (.address m.senderId) (k.serve es).2.store = .ok (some a) ∧
        Sender.parse? x.sender = some ⟨a.name, a.email⟩ := by
  constructor
  · intro text claimed h
    have hform := (Sender.wellFormed_of_parse? h).normalize
    exact ⟨fun _ => Sender.parse?_display hform, normalizeEmail_normalizeEmail _⟩
  · obtain ⟨hvalid, haddresses⟩ := addresses_read_back k hes
    generalize (k.serve es).2.store = s at hvalid haddresses
    refine ⟨(k.ledger s).previews.map Mailbox.Summary.ofPreview,
      (hvalid.eval_eq Mailbox.summaries).1, fun x hx => ?_⟩
    -- a summary is that of a message and of its sender
    obtain ⟨p, hp, rfl⟩ := List.mem_map.mp hx
    obtain ⟨m, hm, hpreview⟩ := List.mem_filterMap.mp hp
    obtain ⟨a, ha, rfl⟩ := Option.map_eq_some_iff.mp hpreview
    have hmessage : (k.ledger s).message? m.id = some m :=
      Ledger.message?_of_mem hvalid.sound.unique hm
    exact ⟨m, a, (hvalid.ask_eq _).trans (congrArg Except.ok hmessage),
      (hvalid.ask_eq _).trans (congrArg Except.ok ha),
      haddresses a (Ledger.mem_of_address? ha)⟩

/-- A name with brackets and a line break in it, and an email in capitals. -/
theorem senders_read_back_brackets :
    let es := [(1, Event.submit "\"<Ann>\n[a@b]\" <A.Σ@B>"
      ⟨"To: c\n\nd".toUTF8.toList, none, 0⟩)]
    let s := (Medium.database.serve es).2.store
    Sender.parse? "\"<Ann>\n[a@b]\" <a.ς@b>" = some ⟨some "<Ann>\n[a@b]", "a.ς@b"⟩ ∧
    ((Mailbox.summaries.eval Medium.database.backend s).1.map
      (List.map Mailbox.Summary.sender)) = .ok ["\"<Ann>\n[a@b]\" <a.ς@b>"] ∧
    ∃ shown, (Mailbox.summaries.eval Medium.database.backend s).1 = .ok shown ∧
      ∀ x ∈ shown, ∃ m a, Medium.database.ask (.message x.id) s = .ok (some m) ∧
        Medium.database.ask (.address m.senderId) s = .ok (some a) ∧
        Sender.parse? x.sender = some ⟨a.name, a.email⟩ := by
  intro es s
  have hes : ∀ x ∈ es, x.2.FromSenders := by simp [es, Event.FromSenders]
  exact ⟨by decide +kernel, by decide +kernel, (senders_read_back .database hes).2⟩

end Service

end Maildrop
