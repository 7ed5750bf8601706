import Maildrop.Proofs.Email
import Maildrop.Proofs.MessageId
import Maildrop.Proofs.Service.Alike
import Maildrop.Proofs.Text.Cut

/-!
# What a service takes in

A service on an empty store that is written to only through sessions, submissions and the
registry holds well-formed data at all times (`Maildrop.Service.ingested_serve`): every message
is named by its content, has previews that are not too long, a sender that exists, and
octets that can be read as a message; and emails are in normal form and belong to one
address each.

Half of this is true of every sound ledger, whoever has called. The other half is brought
in with each message and each email: what a service stores has been *prepared*
(`Maildrop.NewMessage.Prepared`), and no call afterwards changes what is stored.
-/

namespace Maildrop

open Store (Call Ledger Medium Rules Server)

/-- A preview is not longer than its limit. -/
theorem Submission.length_preview_le (t : Option String) {limit : Nat} {dots : Bool}
    (h : Text.isLimit limit dots) : (preview t limit dots).length ≤ limit := by
  rw [preview, String.length_ofList]
  exact Text.length_truncate_le _ h

/-! ### Well-formed data -/

/-- **A ledger of messages taken in.** -/
structure Store.Ledger.Ingested (l : Ledger) : Prop where
  /-- A message is named by its content. -/
  named : ∀ m ∈ l.messages, m.id = MessageId.ofContent m.raw
  /-- An id has the shape that ids are to have. -/
  valid : ∀ m ∈ l.messages, MessageId.isValid m.id
  /-- The size of a message is the number of its octets. -/
  size : ∀ m ∈ l.messages, m.size = m.raw.length
  /-- The preview of a subject has a hundred characters at most. -/
  subject : ∀ m ∈ l.messages, m.subjectPreview.length ≤ 100
  /-- So has the preview of a body. -/
  body : ∀ m ∈ l.messages, m.bodyPreview.length ≤ 100
  /-- The sender of a message exists. -/
  sender : ∀ m ∈ l.messages, ∃ a ∈ l.addresses, a.id = m.senderId
  /-- The octets of a message can be read as one. -/
  readable : ∀ m ∈ l.messages, ∃ e, Envelope.parse m.raw = .ok e
  /-- Emails are in normal form. -/
  normal : ∀ a ∈ l.addresses, a.email = normalizeEmail a.email
  /-- No two addresses have the same email. -/
  emails : (l.addresses.map Address.email).Nodup
  /-- No two messages have the same id. -/
  ids : (l.messages.map Message.id).Nodup

/-- **A message that is ready to be stored.** -/
structure NewMessage.Prepared (m : NewMessage) : Prop where
  named : m.id = MessageId.ofContent m.raw
  subject : m.subjectPreview.length ≤ 100
  body : m.bodyPreview.length ≤ 100
  readable : ∃ e, Envelope.parse m.raw = .ok e

/-- The call writes nothing but prepared messages and normal emails. -/
def Store.Call.Prepared : Call → Prop
  | .createAddress email _ => email = normalizeEmail email
  | .insert m => m.Prepared
  | _ => True

/-- The message that a delivery is made into is prepared if its envelope can be read. -/
theorem Submission.prepared_newMessage (a : Address) {e : Envelope} (gist : Option String)
    {d : Delivery} (h : Envelope.parse d.octets = .ok e) : (newMessage a e gist d).Prepared where
  named := rfl
  subject := length_preview_le _ rfl
  body := length_preview_le _ rfl
  readable := ⟨e, h⟩

theorem Store.permits_prepared : Store.Permits Call.Prepared where
  address _ := trivial
  message _ := trivial
  raw _ := trivial
  delete _ := trivial
  previews := trivial
  insert a _ gist _ h := Submission.prepared_newMessage a gist h

/-! ### What the calls bring in -/

namespace Store

/-- **What prepared calls fill a ledger with.** -/
structure Ledger.Filled (l : Ledger) : Prop where
  addresses : ∀ a ∈ l.addresses, a.email = normalizeEmail a.email
  messages : ∀ m ∈ l.messages, ∃ m' : NewMessage, m'.Prepared ∧ m = m'.stored

variable {r : Rules} {l : Ledger}

/-- Every prepared call keeps a ledger filled so, at whatever instant. -/
theorem Ledger.Filled.step (h : l.Filled) {c : Call} (hc : c.Prepared) (now : Instant) :
    ((r.server.stamping now).step c l).state.Filled := by
  cases c with
  | createAddress email name =>
    change (r.create l email name).2.Filled
    obtain ⟨-, heq⟩ | ⟨-, heq⟩ := r.create_cases l email name
    · rw [heq]
      refine ⟨fun a ha => ?_, h.messages⟩
      rcases List.mem_append.mp ha with ha | ha
      · exact h.addresses a ha
      · rw [List.mem_singleton.mp ha]
        exact hc
    · rwa [heq]
  | insert m =>
    change (r.insert l { m with receivedAt := now }).2.Filled
    obtain ⟨-, -, heq⟩ | ⟨x, -, heq⟩ := r.insert_cases l { m with receivedAt := now }
    · rw [heq]
      refine ⟨h.addresses, fun m' hm' => ?_⟩
      rcases List.mem_append.mp hm' with hm' | hm'
      · exact h.messages m' hm'
      · exact ⟨{ m with receivedAt := now }, ⟨hc.named, hc.subject, hc.body, hc.readable⟩,
          List.mem_singleton.mp hm'⟩
    · rwa [heq]
  | delete id => exact ⟨h.addresses, fun m hm => h.messages m (List.mem_filter.mp hm).1⟩
  | _ => exact h

/-- **A sound ledger that is filled so is well-formed.** -/
theorem Ledger.Filled.ingested {k : Medium} (h : l.Filled) (hs : k.rules.Sound l) :
    l.Ingested where
  named m hm := by
    obtain ⟨m', hm', rfl⟩ := h.messages m hm
    exact hm'.named
  valid m hm := by
    obtain ⟨m', hm', rfl⟩ := h.messages m hm
    change MessageId.isValid m'.id
    rw [hm'.named]
    exact MessageId.isValid_ofContent _
  size := hs.sized
  subject m hm := by
    obtain ⟨m', hm', rfl⟩ := h.messages m hm
    exact hm'.subject
  body m hm := by
    obtain ⟨m', hm', rfl⟩ := h.messages m hm
    exact hm'.body
  sender m hm := by
    obtain ⟨a, ha⟩ := Option.isSome_iff_exists.mp (hs.known m hm)
    exact ⟨a, mem_of_address? ha, id_of_address? ha⟩
  readable m hm := by
    obtain ⟨m', hm', rfl⟩ := h.messages m hm
    exact hm'.readable
  normal := h.addresses
  emails := Medium.nodup_emails hs
  ids := hs.unique

end Store

/-! ### What a service takes in -/

/-- **An event that writes only through the service**: any event but a direct call that
makes an address or stores a message. -/
def Event.Indirect : Event → Prop
  | .call (.createAddress _ _) => False
  | .call (.insert _) => False
  | _ => True

/-- Such an event hands only prepared messages and normal emails to the store. -/
theorem Event.Indirect.admitted {e : Event} (h : e.Indirect) : e.Admitted Call.Prepared := by
  have hregisters : ∀ email name, Store.Registers Call.Prepared email name := fun email _ =>
    ⟨trivial, (normalizeEmail_normalizeEmail email).symm⟩
  cases e with
  | hear n sender => exact fun _ _ => hregisters _ _
  | submit sender d => exact fun _ _ => hregisters _ _
  | getOrCreate email name => exact hregisters _ _
  | find email => exact trivial
  | call c =>
    cases c with
    | createAddress email name => exact h.elim
    | insert m => exact h.elim
    | _ => exact trivial
  | _ => exact trivial

/-- **A service takes in well-formed data only**: whatever happens to it, in whatever order
and at whatever instants, as long as nobody writes to the store directly. -/
theorem Service.ingested_serve (k : Medium) {es : List (Instant × Event)}
    (hes : ∀ x ∈ es, x.2.Indirect) : (k.ledger (k.serve es).2.store).Ingested := by
  have hkeeps : k.Valid (k.serve es).2.store ∧ (k.ledger (k.serve es).2.store).Filled := by
    refine run_keeps Store.permits_prepared (I := fun s => k.Valid s ∧ (k.ledger s).Filled)
      (fun now c s hc h => ?_) (fun x hx => (hes x hx).admitted) ⟨k.valid_empty, ?_⟩
      fun _ => trivial
    · -- a call takes the ledger where it would take the ledger alone
      obtain ⟨hvalid, hledger⟩ := (k.refines.stamping now).state c s _ ⟨h.1, rfl⟩
      exact ⟨hvalid, hledger ▸ h.2.step hc now⟩
    · rw [k.ledger_empty]
      exact ⟨by simp, by simp⟩
  exact hkeeps.2.ingested hkeeps.1.sound

/-- A session takes a message in, and a stranger removes another. -/
theorem Service.ingested_serve_session :
    (Medium.database.ledger (Medium.database.serve
      [(1, .hear 0 "Ann <A@b>"), (2, .receive 0 ⟨"To: c\n\nd".toUTF8.toList, none, 0⟩),
        (2, .remove ["e"])]).2.store).Ingested :=
  ingested_serve .database (by simp [Event.Indirect])

/-- What a service holds then has come in with prepared messages and normal emails. -/
theorem Service.filled_serve (k : Medium) {es : List (Instant × Event)}
    (hes : ∀ x ∈ es, x.2.Indirect) : (k.ledger (k.serve es).2.store).Filled :=
  serve_keeps Store.permits_prepared ⟨by simp, by simp⟩ (fun now _ _ hc hl => hl.step hc now)
    fun x hx => (hes x hx).admitted

end Maildrop
