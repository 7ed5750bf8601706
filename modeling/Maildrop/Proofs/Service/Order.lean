import Maildrop.Proofs.Service.Health

/-!
# The order of two submissions

Two submissions of different contents to one store can come in either order
(`Maildrop.Service.commute`). Each is told the same, and what is stored in the end is the same
but for the numbers of new addresses, the order of the lists and the instants: the same
messages, each with the email and the name of its sender, and the same emails and names.

What a submission brings depends on what is there in two ways only. Its message is stored
unless the id is in use, which another content does not bring about. And its sender is the one
that is known under the claimed email, so the other submission must not make it known: the two
emails are not the same to the store, or it is one email and one name
(`Maildrop.Store.Medium.Independent`).

Two emails that are different and yet the same to the store would be a third case. It is
excluded, even where one name is claimed for both: the email that comes first is the one that
is kept (`Maildrop.Service.not_commute_zero`). Only a database takes two such emails for each
other, and only if both have a zero character (`Maildrop.Store.Medium.independent_of_name`).
-/

namespace Maildrop

open Store (Action Call Ledger Medium Rules Server)

/-! ### What is stored, but for numbers and instants -/

/-- The email and the name of an address. -/
def Address.card (a : Address) : String × Option String := (a.email, a.name)

/-- The message without the number of its sender and the instant at which it came. -/
def Message.bare (m : Message) : Message := { m.unstamped with senderId := 0 }

namespace Store.Ledger

/-- The emails and names of a ledger. -/
def cards (l : Ledger) : List (String × Option String) := l.addresses.map Address.card

/-- The messages of a ledger, each with the email and the name of its sender. -/
def letters (l : Ledger) : List (Message × Option (String × Option String)) :=
  l.messages.map fun m => (m.bare, (l.address? m.senderId).map Address.card)

end Store.Ledger

/-! ### What a submission leaves -/

namespace Submission

variable (r : Rules) (l : Ledger)

/-- The ledger that a submission leaves. -/
def left (sender : String) (d : Delivery) : Ledger :=
  match reading sender d with
  | .error _ => l
  | .ok (claimed, envelope) =>
    if (l.message? (MessageId.ofContent d.octets)).isSome then
      r.register l claimed.email claimed.name
    else
      (r.register l claimed.email claimed.name).addMessage
        (newMessage (r.resolve l claimed.email claimed.name) envelope envelope.gist? d).stored

/-- The message that a submission brings, with the email and the name of its sender. -/
def letter? (sender : String) (d : Delivery) : Option (Message × Option (String × Option String)) :=
  match reading sender d with
  | .error _ => none
  | .ok (claimed, envelope) =>
    if (l.message? (MessageId.ofContent d.octets)).isSome then none
    else
      some ((newMessage (r.resolve l claimed.email claimed.name) envelope envelope.gist?
        d).stored.bare, some (r.resolve l claimed.email claimed.name).card)

/-- The email and the name that a submission brings. -/
def card? (sender : String) (d : Delivery) : Option (String × Option String) :=
  match reading sender d with
  | .error _ => none
  | .ok (claimed, _) =>
    if (r.addressByEmail? l (normalizeEmail claimed.email)).isNone then
      some (normalizeEmail claimed.email, claimed.name)
    else none

variable {r l}

/-- **What a submission is told and what it leaves**, on a sound ledger. -/
theorem eval_accept_eq (h : r.Sound l) (sender : String) (d : Delivery) :
    (accept sender d).eval r.server l =
      (verdict sender d ((l.message? (MessageId.ofContent d.octets)).map Message.raw),
        left r l sender d) := by
  rcases hreading : reading sender d with e | ⟨claimed, envelope⟩
  · rw [accept_of_reading_error hreading]
    simp only [verdict, left, hreading]
    rfl
  · rw [eval_accept h hreading]
    simp only [left, hreading]

/-- A submission leaves other ids alone. -/
theorem message?_left {sender : String} {d : Delivery} {id : String}
    (hid : MessageId.ofContent d.octets ≠ id) :
    (left r l sender d).message? id = l.message? id := by
  have hregister : ∀ email name, (r.register l email name).message? id = l.message? id := by
    intro email name
    rw [Ledger.message?, Rules.messages_register]
    rfl
  have hother : ∀ (l : Ledger) (m : Message), m.id = MessageId.ofContent d.octets →
      (l.addMessage m).message? id = l.message? id := by
    intro l m hm
    rw [Ledger.message?, Ledger.addMessage, List.find?_append, Ledger.message?,
      List.find?_singleton, if_neg (by simpa [hm] using hid), Option.or_none]
  rw [left]
  split
  · rfl
  · split
    · exact hregister ..
    · rw [hother _ _ rfl, hregister]

/-- A submission leaves the addresses alone, or as they are when the claimed email has been
registered. -/
theorem addresses_left (r : Rules) (l : Ledger) (sender : String) (d : Delivery) :
    (left r l sender d).addresses =
      match reading sender d with
      | .error _ => l.addresses
      | .ok (claimed, _) => (r.register l claimed.email claimed.name).addresses := by
  rw [left]
  split
  · rfl
  · split <;> rfl

/-- What a submission brings does not depend on when its data have come. -/
@[simp] theorem letter?_stamped (sender : String) (d : Delivery) (now : Instant) :
    letter? r l sender (d.stamped now) = letter? r l sender d := rfl

@[simp] theorem card?_stamped (sender : String) (d : Delivery) (now : Instant) :
    card? r l sender (d.stamped now) = card? r l sender d := rfl

/-- Nor do the addresses that it leaves. -/
theorem card?_left_stamped (sender₁ sender₂ : String) (d₁ d₂ : Delivery) (now : Instant) :
    card? r (left r l sender₁ (d₁.stamped now)) sender₂ d₂ =
      card? r (left r l sender₁ d₁) sender₂ d₂ := by
  have hemail : ∀ y, r.addressByEmail? (left r l sender₁ (d₁.stamped now)) y =
      r.addressByEmail? (left r l sender₁ d₁) y := by
    intro y
    rw [Rules.addressByEmail?, Rules.addressByEmail?, addresses_left, addresses_left]
    rfl
  simp only [card?, hemail]

/-- **The cards after a submission**: those before it, and the one that it brings. -/
theorem cards_left (r : Rules) (l : Ledger) (sender : String) (d : Delivery) :
    (left r l sender d).cards = l.cards ++ (card? r l sender d).toList := by
  rw [Ledger.cards, addresses_left, card?]
  split
  · exact (List.append_nil _).symm
  · rw [Rules.register]
    split
    · next ha =>
      rw [ha]
      exact (List.append_nil _).symm
    · next ha =>
      rw [ha]
      exact List.map_append

/-- **The letters after a submission**: those before it, and the one that it brings. -/
theorem letters_left (h : r.Sound l) (sender : String) (d : Delivery) :
    (left r l sender d).letters = l.letters ++ (letter? r l sender d).toList := by
  rw [left, letter?]
  split
  · exact (List.append_nil _).symm
  · next claimed envelope _ =>
    have hregister : (r.register l claimed.email claimed.name).letters = l.letters := by
      rw [Ledger.letters, Rules.messages_register]
      refine List.map_congr_left fun m hm => ?_
      -- the sender of a message is there, so it is there afterwards
      obtain ⟨a, ha⟩ := Option.isSome_iff_exists.mp (h.known m hm)
      have ha' : (r.register l claimed.email claimed.name).address? m.senderId = some a := by
        rw [Rules.register]
        split
        · exact ha
        · exact Ledger.address?_addAddress ha
      rw [ha, ha']
    split
    · rw [hregister]
      exact (List.append_nil _).symm
    · have hsender := h.address?_resolve claimed.email claimed.name
      rw [Ledger.letters, Ledger.addMessage, List.map_append]
      refine congrArg₂ List.append hregister ?_
      change [(_, ((r.register l claimed.email claimed.name).address?
        (r.resolve l claimed.email claimed.name).id).map Address.card)] = _
      rw [hsender]
      rfl

end Submission

/-! ### Senders that are independent -/

/-- **Two claims are independent** for a store: they are about two emails without a zero
character, or they have one name and the emails, if they are two, are not the same to the
store. -/
def Store.Medium.Independent (k : Medium) (c c' : Sender) : Prop :=
  (normalizeEmail c.email ≠ normalizeEmail c'.email ∧
    Char.ofNat 0 ∉ c.email.toList ∧ Char.ofNat 0 ∉ c'.email.toList) ∨
  (c.name = c'.name ∧ (normalizeEmail c.email = normalizeEmail c'.email ∨
    k.rules.same (normalizeEmail c.email) (normalizeEmail c'.email) = false))

/-- The emails are not the same to the store, or the claims are the same. -/
theorem Store.Medium.Independent.cases {k : Medium} {c c' : Sender} (h : k.Independent c c') :
    k.rules.same (normalizeEmail c.email) (normalizeEmail c'.email) = false ∨
      (normalizeEmail c.email = normalizeEmail c'.email ∧ c.name = c'.name) := by
  obtain ⟨hne, hc, hc'⟩ | ⟨hname, heq | hdifferent⟩ := h
  · refine .inl (Bool.eq_false_iff.mpr fun hsame => hne ?_)
    exact (k.same_iff (plainEmail_normalizeEmail hc) (plainEmail_normalizeEmail hc')).mp hsame
  · exact .inr ⟨heq, hname⟩
  · exact .inl hdifferent

theorem Store.Medium.Independent.symm {k : Medium} {c c' : Sender} (h : k.Independent c c') :
    k.Independent c' c := by
  obtain ⟨hne, hc, hc'⟩ | ⟨hname, heq | hdifferent⟩ := h
  · exact .inl ⟨hne.symm, hc', hc⟩
  · exact .inr ⟨hname.symm, .inl heq.symm⟩
  · exact .inr ⟨hname.symm, .inr (k.same_comm _ _ ▸ hdifferent)⟩

/-- **Two claims of one name are independent** in memory, and in a database if one of the
emails is without a zero character. -/
theorem Store.Medium.independent_of_name {k : Medium} {c c' : Sender} (hname : c.name = c'.name)
    (h : k = .memory ∨ Char.ofNat 0 ∉ c'.email.toList) : k.Independent c c' := by
  have hsame : k.rules.same (normalizeEmail c.email) (normalizeEmail c'.email) →
      normalizeEmail c.email = normalizeEmail c'.email := by
    intro hsame
    obtain rfl | hplain := h
    · change (Memory.key _ == Memory.key _) = true at hsame
      rwa [key_of_normal (normalizeEmail_normalizeEmail _),
        key_of_normal (normalizeEmail_normalizeEmail _), beq_iff_eq] at hsame
    · exact (k.same_iff_of_normal (normalizeEmail_normalizeEmail _)
        (plainEmail_normalizeEmail hplain)).mp hsame
  by_cases heq : normalizeEmail c.email = normalizeEmail c'.email
  · exact .inr ⟨hname, .inl heq⟩
  · exact .inr ⟨hname, .inr (Bool.eq_false_iff.mpr fun h => heq (hsame h))⟩

namespace Store.Rules

variable {r : Rules} {l : Ledger} {x y : String}

/-- Registering an email is nothing to another that is not the same. -/
theorem addressByEmail?_register_of_not_same (name : Option String)
    (h : r.same (normalizeEmail x) y = false) :
    r.addressByEmail? (r.register l x name) y = r.addressByEmail? l y := by
  rw [register]
  split
  · rfl
  · rw [addressByEmail?, Ledger.addAddress, List.find?_append, List.find?_singleton,
      if_neg (by simp [Ledger.newAddress, h]), Option.or_none]
    rfl

/-- An email that has been registered is found. -/
theorem addressByEmail?_register_self (name : Option String)
    (h : r.same (normalizeEmail x) (normalizeEmail x)) :
    r.addressByEmail? (r.register l x name) (normalizeEmail x) = some (r.resolve l x name) := by
  rw [register, resolve]
  rcases ha : r.addressByEmail? l (normalizeEmail x) with _ | a
  · rw [addressByEmail?] at ha
    rw [addressByEmail?, Ledger.addAddress, List.find?_append, ha, List.find?_singleton,
      if_pos (by simpa [Ledger.newAddress] using h)]
    rfl
  · exact ha

end Store.Rules

namespace Submission

variable {k : Medium} {l : Ledger} {sender₁ sender₂ : String} {d₁ d₂ : Delivery}

/-- A submission that cannot be read leaves everything. -/
theorem left_of_error {r : Rules} {sender : String} {d : Delivery} {e : Error}
    (h : reading sender d = .error e) : left r l sender d = l := by
  rw [left, h]

theorem card?_of_error {r : Rules} {sender : String} {d : Delivery} {e : Error}
    (h : reading sender d = .error e) : card? r l sender d = none := by
  rw [card?, h]

/-- One that can be read leaves the emails as registering the claim does. -/
theorem addressByEmail?_left {r : Rules} {sender : String} {d : Delivery} {claimed : Sender}
    {envelope : Envelope} (h : reading sender d = .ok (claimed, envelope)) (email : String) :
    r.addressByEmail? (left r l sender d) email =
      r.addressByEmail? (r.register l claimed.email claimed.name) email := by
  rw [Rules.addressByEmail?, addresses_left, h]
  rfl

/-- The card that an email resolves to. -/
theorem card_resolve (r : Rules) (l : Ledger) (email : String) (name : Option String) :
    (r.resolve l email name).card =
      ((r.addressByEmail? l (normalizeEmail email)).map Address.card).getD
        (normalizeEmail email, name) := by
  rw [Rules.resolve]
  rcases r.addressByEmail? l (normalizeEmail email) with _ | a <;> rfl

/-- **A submission is nothing to the card of an independent sender.** -/
theorem card_resolve_left {c₂ : Sender}
    (h : ∀ c₁, Sender.parse? sender₁ = some c₁ → k.Independent c₁ c₂) :
    (k.rules.resolve (left k.rules l sender₁ d₁) c₂.email c₂.name).card =
      (k.rules.resolve l c₂.email c₂.name).card := by
  rcases hreading : reading sender₁ d₁ with e | ⟨c₁, envelope⟩
  · rw [left_of_error hreading]
  · rw [card_resolve, addressByEmail?_left hreading]
    obtain hdifferent | ⟨hemail, hname⟩ := (h c₁ (reading_eq_ok_iff.mp hreading).1).cases
    · rw [Rules.addressByEmail?_register_of_not_same c₁.name hdifferent, card_resolve]
    · rw [← hemail, Rules.addressByEmail?_register_self c₁.name (k.same_self _), Rules.resolve,
        Rules.resolve, hemail, hname]
      rfl

/-- **So it is nothing to the letter of an independent sender**, if that has another content. -/
theorem letter?_left (hids : MessageId.ofContent d₁.octets ≠ MessageId.ofContent d₂.octets)
    (h : ∀ c₁ c₂, Sender.parse? sender₁ = some c₁ → Sender.parse? sender₂ = some c₂ →
      k.Independent c₁ c₂) :
    letter? k.rules (left k.rules l sender₁ d₁) sender₂ d₂ = letter? k.rules l sender₂ d₂ := by
  rw [letter?, letter?, message?_left hids]
  split
  · rfl
  · next c₂ envelope hreading =>
    have hsender : ∀ c₁, Sender.parse? sender₁ = some c₁ → k.Independent c₁ c₂ := fun c₁ h₁ =>
      h c₁ c₂ h₁ (reading_eq_ok_iff.mp hreading).1
    rw [card_resolve_left hsender]
    rfl

/-- **In either order two independent senders bring the same cards.** -/
theorem cards_perm (h : ∀ c₁ c₂, Sender.parse? sender₁ = some c₁ →
      Sender.parse? sender₂ = some c₂ → k.Independent c₁ c₂) :
    ((card? k.rules l sender₁ d₁).toList ++
        (card? k.rules (left k.rules l sender₁ d₁) sender₂ d₂).toList).Perm
      ((card? k.rules l sender₂ d₂).toList ++
        (card? k.rules (left k.rules l sender₂ d₂) sender₁ d₁).toList) := by
  rcases h₁ : reading sender₁ d₁ with e₁ | ⟨c₁, envelope₁⟩
  · rw [left_of_error h₁, card?_of_error h₁, card?_of_error h₁]
    exact List.perm_append_comm
  · rcases h₂ : reading sender₂ d₂ with e₂ | ⟨c₂, envelope₂⟩
    · rw [left_of_error h₂, card?_of_error h₂, card?_of_error h₂]
      exact List.perm_append_comm
    · have hind := h c₁ c₂ (reading_eq_ok_iff.mp h₁).1 (reading_eq_ok_iff.mp h₂).1
      simp only [card?, h₁, h₂, addressByEmail?_left h₁, addressByEmail?_left h₂]
      obtain hdifferent | ⟨hemail, hname⟩ := hind.cases
      · -- neither makes the other known
        have hdifferent' := hdifferent
        rw [k.same_comm] at hdifferent'
        rw [Rules.addressByEmail?_register_of_not_same c₁.name hdifferent,
          Rules.addressByEmail?_register_of_not_same c₂.name hdifferent']
        exact List.perm_append_comm
      · -- whoever comes first brings the card of both
        have hself₁ := Rules.addressByEmail?_register_self (l := l) (x := c₁.email) c₁.name
          (k.same_self _)
        have hself₂ := Rules.addressByEmail?_register_self (l := l) (x := c₂.email) c₂.name
          (k.same_self _)
        rw [← hemail, hself₁, hemail, hself₂, hname, Option.isNone_some, Option.isNone_some]

end Submission

/-! ### Either order -/

/-- **What is stored** when some events have happened to an empty service. -/
def Store.Medium.stored (k : Medium) (es : List (Instant × Event)) : Ledger :=
  k.ledger (k.serve es).2.store

namespace Service

/-- **Two submissions commute** after some events: in either order, and at whatever instants,
each has the same reply, and what is stored in the end is the same but for the numbers of new
addresses, the order of the lists and the instants. -/
structure Commute (k : Medium) (es : List (Instant × Event)) (sender₁ : String) (d₁ : Delivery)
    (sender₂ : String) (d₂ : Delivery) : Prop where
  replies : ∃ r₁ r₂ : Except Submission.Error String, ∀ now now' : Instant,
    (k.serve (es ++ [(now, .submit sender₁ d₁), (now', .submit sender₂ d₂)])).1 =
        (k.serve es).1 ++ [.submitted r₁, .submitted r₂] ∧
      (k.serve (es ++ [(now, .submit sender₂ d₂), (now', .submit sender₁ d₁)])).1 =
        (k.serve es).1 ++ [.submitted r₂, .submitted r₁]
  letters : ∀ now₁ now₂ now₁' now₂' : Instant,
    (k.stored (es ++ [(now₁, .submit sender₁ d₁), (now₂, .submit sender₂ d₂)])).letters.Perm
      (k.stored (es ++ [(now₁', .submit sender₂ d₂), (now₂', .submit sender₁ d₁)])).letters
  cards : ∀ now₁ now₂ now₁' now₂' : Instant,
    (k.stored (es ++ [(now₁, .submit sender₁ d₁), (now₂, .submit sender₂ d₂)])).cards.Perm
      (k.stored (es ++ [(now₁', .submit sender₂ d₂), (now₂', .submit sender₁ d₁)])).cards

/-- A submission to a valid store, at any instant. -/
theorem step_submit {k : Medium} {s : Service k.State} (hs : k.Valid s.store) (sender : String)
    (d : Delivery) (now : Instant) :
    (step (k.backend.stamping now) (.submit sender d) s).1 =
        .submitted (Submission.verdict sender d
          (((k.ledger s.store).message? (MessageId.ofContent d.octets)).map Message.raw)) ∧
      k.Valid (step (k.backend.stamping now) (.submit sender d) s).2.store ∧
      k.ledger (step (k.backend.stamping now) (.submit sender d) s).2.store =
        Submission.left k.rules (k.ledger s.store) sender (d.stamped now) := by
  have hstep := step_eq hs (e := .submit sender d) (by simp) now
  simp only [Event.stamped, Event.program, Program.eval_bind, Program.eval_pure,
    Submission.eval_submit, Submission.eval_accept_eq hs.sound] at hstep
  exact hstep

/-- **One more submission**: what it is told, and what it leaves. -/
theorem serve_submit (k : Medium) (es : List (Instant × Event)) (sender : String) (d : Delivery)
    (now : Instant) :
    (k.serve (es ++ [(now, .submit sender d)])).1 = (k.serve es).1 ++
        [.submitted (Submission.verdict sender d
          (((k.stored es).message? (MessageId.ofContent d.octets)).map Message.raw))] ∧
      k.stored (es ++ [(now, .submit sender d)]) =
        Submission.left k.rules (k.stored es) sender (d.stamped now) := by
  obtain ⟨hreply, -, hledger⟩ := step_submit (k.valid_serve es) sender d now
  rw [Medium.stored, Medium.stored, serve_concat]
  exact ⟨congrArg (fun r => (k.serve es).1 ++ [r]) hreply, hledger⟩

/-- **One submission after the other**: what each is told, and what they leave. -/
theorem serve_submit_submit (k : Medium) (es : List (Instant × Event)) {sender₁ sender₂ : String}
    {d₁ d₂ : Delivery} (hids : MessageId.ofContent d₁.octets ≠ MessageId.ofContent d₂.octets)
    (h : ∀ c₁ c₂, Sender.parse? sender₁ = some c₁ → Sender.parse? sender₂ = some c₂ →
      k.Independent c₁ c₂) (now₁ now₂ : Instant) :
    let l := k.stored es
    let told := fun sender d => Reply.submitted (Submission.verdict sender d
      ((l.message? (MessageId.ofContent d.octets)).map Message.raw))
    let es' := es ++ [(now₁, .submit sender₁ d₁), (now₂, .submit sender₂ d₂)]
    (k.serve es').1 = (k.serve es).1 ++ [told sender₁ d₁, told sender₂ d₂] ∧
      (k.stored es').letters = l.letters ++ ((Submission.letter? k.rules l sender₁ d₁).toList ++
          (Submission.letter? k.rules l sender₂ d₂).toList) ∧
      (k.stored es').cards = l.cards ++ ((Submission.card? k.rules l sender₁ d₁).toList ++
          (Submission.card? k.rules (Submission.left k.rules l sender₁ d₁) sender₂ d₂).toList) := by
  intro l told es'
  have hes' : es' = (es ++ [(now₁, .submit sender₁ d₁)]) ++ [(now₂, .submit sender₂ d₂)] :=
    (List.append_assoc es [_] [_]).symm
  obtain ⟨hreplies₁, hleft₁⟩ := serve_submit k es sender₁ d₁ now₁
  obtain ⟨hreplies₂, hleft₂⟩ := serve_submit k (es ++ [(now₁, .submit sender₁ d₁)]) sender₂ d₂ now₂
  rw [← hes', hleft₁] at hreplies₂ hleft₂
  refine ⟨?_, ?_, ?_⟩
  · -- the first submission leaves the id of the second alone
    have hsame : (Submission.left k.rules l sender₁ (d₁.stamped now₁)).message?
        (MessageId.ofContent d₂.octets) = l.message? (MessageId.ofContent d₂.octets) :=
      Submission.message?_left hids
    rw [hreplies₂, hsame, hreplies₁, List.append_assoc]
    rfl
  · have hletter : Submission.letter? k.rules (Submission.left k.rules l sender₁ (d₁.stamped now₁))
        sender₂ (d₂.stamped now₂) = Submission.letter? k.rules l sender₂ d₂ :=
      Submission.letter?_left hids h
    rw [hleft₂, Submission.letters_left, hletter, Submission.letters_left,
      Submission.letter?_stamped, List.append_assoc]
    · exact (k.valid_serve es).sound
    · rw [← hleft₁]
      exact (k.valid_serve _).sound
  · rw [hleft₂, Submission.cards_left, Submission.card?_stamped, Submission.card?_left_stamped,
      Submission.cards_left, Submission.card?_stamped, List.append_assoc]

/-- **The order of two submissions makes no difference**, whatever has happened to the store
before, if their contents have different ids and their senders, if both are senders, are
independent. -/
theorem commute (k : Medium) (es : List (Instant × Event)) {sender₁ sender₂ : String}
    {d₁ d₂ : Delivery} (hids : MessageId.ofContent d₁.octets ≠ MessageId.ofContent d₂.octets)
    (h : ∀ c₁ c₂, Sender.parse? sender₁ = some c₁ → Sender.parse? sender₂ = some c₂ →
      k.Independent c₁ c₂) : Commute k es sender₁ d₁ sender₂ d₂ := by
  have h' : ∀ c₂ c₁, Sender.parse? sender₂ = some c₂ → Sender.parse? sender₁ = some c₁ →
      k.Independent c₂ c₁ := fun c₂ c₁ h₂ h₁ => (h c₁ c₂ h₁ h₂).symm
  have hserve := fun now₁ now₂ => serve_submit_submit k es hids h now₁ now₂
  have hserve' := fun now₁ now₂ => serve_submit_submit k es hids.symm h' now₁ now₂
  refine ⟨⟨_, _, fun now now' => ⟨(hserve now now').1, (hserve' now now').1⟩⟩, ?_, ?_⟩
  · intro now₁ now₂ now₁' now₂'
    rw [(hserve now₁ now₂).2.1, (hserve' now₁' now₂').2.1]
    exact List.perm_append_comm.append_left _
  · intro now₁ now₂ now₁' now₂'
    rw [(hserve now₁ now₂).2.2, (hserve' now₁' now₂').2.2]
    exact (Submission.cards_perm h).append_left _

/-- Two spellings of one email, with one name. -/
theorem commute_two_spellings :
    let d₁ : Delivery := ⟨"To: c\n\nd".toUTF8.toList, none, 0⟩
    let d₂ : Delivery := ⟨"To: c\n\ne".toUTF8.toList, none, 0⟩
    MessageId.ofContent d₁.octets ≠ MessageId.ofContent d₂.octets ∧
      (∀ c₁ c₂, Sender.parse? "Ann <A@b>" = some c₁ → Sender.parse? "\"Ann\" <a@B>" = some c₂ →
        Medium.database.Independent c₁ c₂) ∧
      Commute .database [(1, .submit "c@d" d₂), (1, .remove [MessageId.ofContent d₂.octets])]
        "Ann <A@b>" d₁ "\"Ann\" <a@B>" d₂ := by
  intro d₁ d₂
  have hids : MessageId.ofContent d₁.octets ≠ MessageId.ofContent d₂.octets := by decide +kernel
  have hsenders : ∀ c₁ c₂, Sender.parse? "Ann <A@b>" = some c₁ →
      Sender.parse? "\"Ann\" <a@B>" = some c₂ → Medium.database.Independent c₁ c₂ := by
    have h₁ : Sender.parse? "Ann <A@b>" = some ⟨some "Ann", "A@b"⟩ := by decide +kernel
    have h₂ : Sender.parse? "\"Ann\" <a@B>" = some ⟨some "Ann", "a@B"⟩ := by decide +kernel
    rintro c₁ c₂ hc₁ hc₂
    obtain rfl := Option.some.inj (h₁.symm.trans hc₁)
    obtain rfl := Option.some.inj (h₂.symm.trans hc₂)
    exact Medium.independent_of_name rfl (.inr (by decide))
  exact ⟨hids, hsenders, commute .database _ hids hsenders⟩

/-- **One name is not enough**: two emails that agree up to a zero character are the same to a
database, which keeps the one that comes first. -/
theorem not_commute_zero :
    let d₁ : Delivery := ⟨"To: c\n\nd".toUTF8.toList, none, 0⟩
    let d₂ : Delivery := ⟨"To: c\n\ne".toUTF8.toList, none, 0⟩
    MessageId.ofContent d₁.octets ≠ MessageId.ofContent d₂.octets ∧
      Sender.parse? "\"n\" <a\x00b@c>" = some ⟨some "n", "a\x00b@c"⟩ ∧
      Sender.parse? "\"n\" <a\x00d@c>" = some ⟨some "n", "a\x00d@c"⟩ ∧
      ¬Commute .database [] "\"n\" <a\x00b@c>" d₁ "\"n\" <a\x00d@c>" d₂ := by
  intro d₁ d₂
  refine ⟨by decide +kernel, by decide +kernel, by decide +kernel, fun h => ?_⟩
  exact absurd (h.cards 0 0 0 0) (by decide +kernel)

end Service

end Maildrop
