import Maildrop.Proofs.Registry.Records
import Maildrop.Proofs.Service.Ingested
import Maildrop.Proofs.Service.Stamping
import Maildrop.Proofs.Store.Unreliable

/-!
# Trying again

A submission to a store whose calls may fail can be given up halfway. What it leaves behind
then is little (`Maildrop.Session.attempt_error`): it has changed nothing, or it has made the
address of its sender and nothing else. The address is no obstacle to a later attempt, which
finds it instead of making it. So whoever has failed, at whatever points and however often,
can try again, and the first attempt in which nothing fails stores the message once, under the
one address of its sender (`Maildrop.Session.retry`).

That there is one address holds in spite of what others have brought before, since all emails
that a service stores are in normal form, and among those an email without a zero character is
found by itself only (`Maildrop.Store.Medium.addressByEmail?_eq`).
-/

namespace Maildrop

open Store (Action Call Client Failure Ledger Medium Rules Server)

/-! ### The steps of a submission that may be given up -/

/-- The line to a store is unreliable at every instant alike. -/
theorem Store.Server.unreliable_stamping {σ : Type} (b : Server σ) (now : Instant) :
    b.unreliable.stamping now = (b.stamping now).unreliable := by
  refine congrArg Backend.mk (funext fun c => funext fun s => ?_)
  rcases hf : s.1.head?.join with _ | e
  · cases c <;> simp only [Server.unreliable, Server.stamping, hf]
  · cases c <;> simp only [Server.unreliable, hf]

section Ledger

variable {r : Rules} {l : Ledger}

/-- Getting or creating an address gives up, or does what it does on a reliable line. -/
theorem Registry.givesUpOr_getOrCreate (r : Rules) (l : Ledger) (email : String)
    (name : Option String) (faults : List (Option Failure)) :
    Store.GivesUpOr l
      (fun result l' => result = .ok (r.resolve l email name) ∧ l' = r.register l email name)
      ((getOrCreate email name).eval r.server.unreliable (faults, l)) := by
  have hlook : (r.server.step (.addressByEmail (normalizeEmail email)) l).result =
      .ok (r.addressByEmail? l (normalizeEmail email)) := rfl
  refine Store.GivesUpOr.ask_bind hlook ?_
  rw [Rules.resolve, Rules.register]
  rcases ha : r.addressByEmail? l (normalizeEmail email) with _ | a
  · have hmake : r.create l (normalizeEmail email) name =
        (.created (l.newAddress (normalizeEmail email) name),
          l.addAddress (l.newAddress (normalizeEmail email) name)) := by
      rw [Rules.create, ha]
      rfl
    have hcreate : (r.server.step (.createAddress (normalizeEmail email) name) l).result =
        .ok (.created (l.newAddress (normalizeEmail email) name)) := by
      change Except.ok (r.create l (normalizeEmail email) name).1 = _
      rw [hmake]
    exact Store.GivesUpOr.ask_bind hcreate (.inr ⟨rfl, congrArg Prod.snd hmake⟩)
  · exact .inr ⟨rfl, rfl⟩

/-- Comparing with what is stored never comes to anything but an error, and changes nothing. -/
theorem Submission.givesUpOr_duplicate (r : Rules) (l : Ledger) (id : String) (raw : Bytes)
    (faults : List (Option Failure)) (Q : Except Error String → Ledger → Prop) :
    Store.GivesUpOr l Q ((duplicate id raw).eval r.server.unreliable (faults, l)) := by
  have hraw : (r.server.step (.raw id) l).result = .ok ((l.message? id).map Message.raw) := rfl
  refine Store.GivesUpOr.ask_bind hraw ?_
  rcases (l.message? id).map Message.raw with _ | stored <;> exact .inl ⟨_, rfl, rfl⟩

/-- Storing a message whose sender is known gives up, or has stored the message. -/
theorem Submission.givesUpOr_deposit {a : Address} (ha : (l.address? a.id).isSome)
    (e : Envelope) (d : Delivery) (faults : List (Option Failure)) :
    Store.GivesUpOr l (fun result _ => result = .ok (MessageId.ofContent d.octets))
      ((deposit a e d).eval r.server.unreliable (faults, l)) := by
  rw [deposit, Action.eval_bind_ok (eval_gistFor ..)]
  have hknown : (l.address? (newMessage a e e.gist? d).senderId).isSome := ha
  obtain ⟨-, hinsert⟩ | ⟨-, hinsert⟩ := r.insert_of_known l hknown
  · have hresult : (r.server.step (.insert (newMessage a e e.gist? d)) l).result = .ok .stored :=
      congrArg Prod.fst hinsert
    exact Store.GivesUpOr.ask_bind hresult (.inr rfl)
  · have hresult : (r.server.step (.insert (newMessage a e e.gist? d)) l).result =
        .ok .duplicate := congrArg Prod.fst hinsert
    have hstate : (r.server.step (.insert (newMessage a e e.gist? d)) l).state = l :=
      congrArg Prod.snd hinsert
    refine Store.GivesUpOr.ask_bind hresult ?_
    rw [hstate]
    exact givesUpOr_duplicate r l _ _ _ _

/-- **A submission that fails leaves the ledger as it was**, or as it is when the claimed email
has been registered. -/
theorem Submission.accept_unreliable (hl : r.Sound l) (sender : String) (d : Delivery)
    (faults : List (Option Failure)) {e : Error} {s : List (Option Failure) × Ledger}
    (h : (accept sender d).eval r.server.unreliable (faults, l) = (.error e, s)) :
    s.2 = l ∨ ∃ claimed envelope, reading sender d = .ok (claimed, envelope) ∧
      s.2 = r.register l claimed.email claimed.name := by
  rcases hreading : reading sender d with e' | ⟨claimed, envelope⟩
  · rw [accept_of_reading_error hreading] at h
    exact .inl (congrArg (fun x => x.2.2) h.symm)
  · rw [accept_of_reading_ok hreading,
      Action.eval_bind_ok (Action.eval_record ..), Action.eval_bind] at h
    have hget := Registry.givesUpOr_getOrCreate r l claimed.email claimed.name faults
    rcases hx : (Registry.getOrCreate claimed.email claimed.name).eval r.server.unreliable
      (faults, l) with ⟨result, faults', l'⟩
    rw [hx] at h hget
    obtain ⟨e', rfl, rfl⟩ | ⟨rfl, rfl⟩ := hget
    · exact .inl (congrArg (fun x => x.2.2) h.symm)
    · have hknown := hl.address?_resolve claimed.email claimed.name
      obtain ⟨e', -, hleft⟩ | hok := givesUpOr_deposit (r := r) (by rw [hknown]; rfl) envelope d
        faults'
      · refine .inr ⟨claimed, envelope, rfl, ?_⟩
        rw [← hleft]
        exact congrArg (fun x => x.2.2) h.symm
      · exact absurd ((congrArg Prod.fst h).symm.trans hok) (by simp)

end Ledger

/-! ### Attempts -/

/-- **An attempt at a submission**: a session of its own hears the sender and receives the data.
The result comes with what has become of the session. -/
def Session.attempt (sender : String) (d : Delivery) :
    Client (Except Submission.Error String × Session) := do
  let s ← receivingSender.hear sender
  s.receive d

/-- **A store at an instant whose calls may fail.** -/
abbrev Store.Medium.faulty (k : Medium) (now : Instant) :
    Server (List (Option Failure) × k.State) := (k.backend.stamping now).unreliable

namespace Session

theorem eval_attempt {σ : Type} (b : Server σ) (sender : String) (d : Delivery) (s : σ) :
    (attempt sender d).eval b s =
      ((((Submission.accept sender d).eval b s).1,
        ofVerdict ((Submission.accept sender d).eval b s).1),
        ((Submission.accept sender d).eval b s).2) := by
  have hhear : (receivingSender.hear sender).eval b s = (.receivingData sender, s) := rfl
  rw [attempt, Program.eval_bind, hhear, eval_receive]

/-- What an attempt may leave behind when it fails: what there was, or the record of the
sender besides. -/
def Leftover (k : Medium) (sender : String) (l l' : Ledger) : Prop :=
  l' = l ∨ ∃ claimed, Sender.parse? sender = some claimed ∧
    l' = k.rules.register l claimed.email claimed.name

variable {k : Medium} {s : k.State}

/-- **A failed attempt ends its session, and leaves the store with little or nothing new.** -/
theorem attempt_error (hs : k.Valid s) {now : Instant} {faults : List (Option Failure)}
    {sender : String} {d : Delivery} {e : Submission.Error}
    (h : ((attempt sender d).eval (k.faulty now) (faults, s)).1.1 = .error e) :
    ((attempt sender d).eval (k.faulty now) (faults, s)).1.2 = .rejected ∧
      k.Valid ((attempt sender d).eval (k.faulty now) (faults, s)).2.2 ∧
      Leftover k sender (k.ledger s)
        (k.ledger ((attempt sender d).eval (k.faulty now) (faults, s)).2.2) := by
  obtain ⟨hvalue, -, hvalid, hledger⟩ :=
    (Server.refines_unreliable (k.refines.stamping now)).eval (Submission.accept sender d).run
      (s := (faults, s)) (t := (faults, k.ledger s)) ⟨rfl, hs, rfl⟩
  simp only [Action.eval_run] at hvalue hvalid hledger
  rw [eval_attempt] at h ⊢
  refine ⟨by rw [h]; rfl, hvalid, ?_⟩
  rw [h, ← Server.unreliable_stamping, Submission.eval_accept_stamping] at hvalue
  rw [hledger, ← Server.unreliable_stamping, Submission.eval_accept_stamping]
  obtain heq | ⟨claimed, envelope, hreading, heq⟩ :=
    Submission.accept_unreliable hs.sound sender (d.stamped now) faults
      (Prod.ext hvalue.symm rfl)
  · exact .inl heq
  · exact .inr ⟨claimed, (Submission.reading_eq_ok_iff.mp hreading).1, heq⟩

/-- Failed attempts leave the messages alone. -/
theorem Leftover.messages {sender : String} {l l' : Ledger} (h : Leftover k sender l l') :
    l'.messages = l.messages := by
  obtain rfl | ⟨claimed, -, rfl⟩ := h
  · rfl
  · exact Rules.messages_register ..

/-- They make one address at most, that of the sender. -/
theorem Leftover.addresses {sender : String} {l l' : Ledger} (h : Leftover k sender l l') :
    l'.addresses = l.addresses ∨ ∃ claimed, Sender.parse? sender = some claimed ∧
      l'.addresses = l.addresses ++
        [l.newAddress (normalizeEmail claimed.email) claimed.name] := by
  obtain rfl | ⟨claimed, hclaimed, rfl⟩ := h
  · exact .inl rfl
  · rw [Rules.register]
    split
    · exact .inl rfl
    · exact .inr ⟨claimed, hclaimed, rfl⟩

end Session

/-- Registering an email keeps emails in normal form. -/
theorem Store.Ledger.Filled.register {r : Rules} {l : Ledger} (h : l.Filled) (email : String)
    (name : Option String) : (r.register l email name).Filled := by
  rw [Rules.register]
  split
  · exact h
  · refine ⟨fun a ha => ?_, h.messages⟩
    rcases List.mem_append.mp ha with ha | ha
    · exact h.addresses a ha
    · rw [List.mem_singleton.mp ha]
      exact (normalizeEmail_normalizeEmail email).symm

/-- **Attempts that have failed**, one after the other, each at whatever points: between two
states of a store. -/
inductive FailedAttempts (k : Medium) (s : k.State) : k.State → Prop where
  | none : FailedAttempts k s s
  | more {t : k.State} (h : FailedAttempts k s t) {now : Instant}
    {faults : List (Option Failure)} {sender : String} {d : Delivery} {e : Submission.Error}
    (he : ((Session.attempt sender d).eval (k.faulty now) (faults, t)).1.1 = .error e) :
    FailedAttempts k s ((Session.attempt sender d).eval (k.faulty now) (faults, t)).2.2

namespace FailedAttempts

variable {k : Medium} {s t : k.State}

/-- **However many attempts have failed**, the store is in order and has the messages that it
had. -/
theorem keeps (h : FailedAttempts k s t) (hs : k.Valid s) (hfilled : (k.ledger s).Filled) :
    k.Valid t ∧ (k.ledger t).Filled ∧ (k.ledger t).messages = (k.ledger s).messages := by
  induction h with
  | none => exact ⟨hs, hfilled, rfl⟩
  | more h he ih =>
    obtain ⟨hvalid, hfilled', hmessages⟩ := ih
    obtain ⟨-, hvalid', hleftover⟩ := Session.attempt_error hvalid he
    refine ⟨hvalid', ?_, hleftover.messages.trans hmessages⟩
    obtain heq | ⟨claimed, -, heq⟩ := hleftover
    · rwa [heq]
    · rw [heq]
      exact hfilled'.register ..

end FailedAttempts

/-! ### The attempt that succeeds -/

/-- Among emails in normal form a plain one resolves to an address of its own. -/
theorem Store.Medium.email_resolve {k : Medium} {l : Ledger}
    (hl : ∀ a ∈ l.addresses, normalizeEmail a.email = a.email) {email : String}
    (h : PlainEmail (normalizeEmail email)) (name : Option String) :
    (k.rules.resolve l email name).email = normalizeEmail email := by
  rw [Rules.resolve, k.addressByEmail?_eq hl h]
  rcases hf : l.addresses.find? fun a => a.email = normalizeEmail email with _ | a
  · rw [hf]
    rfl
  · rw [hf]
    have hfound := List.find?_some hf
    exact of_decide_eq_true hfound

/-- **An attempt in which nothing fails** stores a message that is not there yet, under the one
address of its sender. -/
theorem Session.attempt_ok {k : Medium} {s : k.State} (hs : k.Valid s)
    (hfilled : (k.ledger s).Filled) {sender : String} {d : Delivery} {claimed : Sender}
    {envelope : Envelope} (hreading : Submission.reading sender d = .ok (claimed, envelope))
    (hemail : Char.ofNat 0 ∉ claimed.email.toList)
    (hnew : (k.ledger s).message? (MessageId.ofContent d.octets) = none) (now : Instant) :
    ((attempt sender d).eval (k.backend.stamping now) s).1 =
        (.ok (MessageId.ofContent d.octets), .resolved (MessageId.ofContent d.octets)) ∧
      ((k.ledger ((attempt sender d).eval (k.backend.stamping now) s).2).messages.map
        Message.id).count (MessageId.ofContent d.octets) = 1 ∧
      ((k.ledger ((attempt sender d).eval (k.backend.stamping now) s).2).addresses.map
        Address.email).count (normalizeEmail claimed.email) = 1 := by
  obtain ⟨hvalue, hvalid, hledger⟩ := hs.eval_eq (Submission.accept sender (d.stamped now)).run
  simp only [Action.eval_run] at hvalue hvalid hledger
  have hnone : (k.ledger s).message? (MessageId.ofContent (d.stamped now).octets) = none := hnew
  have hread : Submission.reading sender (d.stamped now) = .ok (claimed, envelope) := hreading
  have heval := Submission.eval_accept hs.sound hread
  simp only [hnone, Submission.verdict, hread, Option.map_none, Option.isSome_none,
    Bool.false_eq_true, if_false] at heval
  rw [eval_attempt, Submission.eval_accept_stamping]
  have hsound := hvalid.sound
  rw [hledger, heval] at hsound
  rw [hvalue, hledger, heval]
  refine ⟨rfl, List.count_eq_one_of_mem hsound.unique ?_,
    List.count_eq_one_of_mem (Medium.nodup_emails hsound) ?_⟩
  · rw [Ledger.addMessage, List.map_append]
    exact List.mem_append_right _ (List.mem_singleton.mpr rfl)
  · have hnormal : ∀ a ∈ (k.ledger s).addresses, normalizeEmail a.email = a.email :=
      fun a ha => (hfilled.addresses a ha).symm
    rw [← k.email_resolve hnormal (plainEmail_normalizeEmail hemail) claimed.name]
    exact List.mem_map_of_mem (Rules.resolve_mem_register claimed.email claimed.name)

/-! ### A whole run -/

/-- On an unreliable line too, a service on an empty store that nobody writes to directly has
stored nothing but well-formed data. -/
theorem Service.filled_run_faulty (k : Medium) {es : List (Instant × Event)}
    (hes : ∀ x ∈ es, x.2.Indirect) (faults : List (Option Failure)) :
    let s := (run k.faulty es ⟨(faults, k.empty), fun _ => .receivingSender⟩).2.store.2
    k.Valid s ∧ (k.ledger s).Filled := by
  refine run_keeps Store.permits_prepared (b := k.faulty)
    (I := fun s => k.Valid s.2 ∧ (k.ledger s.2).Filled)
    (fun now c s hc h => ?_) (fun x hx => (hes x hx).admitted) ⟨k.valid_empty, ?_⟩
    fun _ => trivial
  · obtain ⟨f, -, heq⟩ | ⟨-, heq⟩ := Server.unreliable_cases (k.backend.stamping now) c s
    · rwa [heq]
    · rw [heq]
      obtain ⟨hvalid, hledger⟩ := (k.refines.stamping now).state c s.2 _ ⟨h.1, rfl⟩
      exact ⟨hvalid, hledger ▸ h.2.step hc now⟩
  · rw [k.ledger_empty]
    exact ⟨by simp, by simp⟩

/-- **A failed submission can always be tried again.** Let a service on an empty store of either
kind have come to a state by anything but direct writes, while its calls have failed at
whatever points. A further attempt that fails, at whatever point, ends its session as rejected
and leaves the messages alone, and of addresses it makes at most one, that of the claimed
email. And if the sender of an attempt is one, without a zero character in its email, if its
data can be read and no message with their id is there, then after any number of failed
attempts an attempt in which nothing fails is told the id; there is then exactly one message
with this id, and exactly one address with the normal form of the email. -/
theorem Session.retry (k : Medium) {es : List (Instant × Event)} (hes : ∀ x ∈ es, x.2.Indirect)
    (faults : List (Option Failure)) :
    let s := (Service.run k.faulty es ⟨(faults, k.empty), fun _ => .receivingSender⟩).2.store.2
    (∀ now faults' sender d e,
      let r := (attempt sender d).eval (k.faulty now) (faults', s)
      r.1.1 = .error e →
        r.1.2 = .rejected ∧ (k.ledger r.2.2).messages = (k.ledger s).messages ∧
        ((k.ledger r.2.2).addresses = (k.ledger s).addresses ∨
          ∃ claimed, Sender.parse? sender = some claimed ∧
            (k.ledger r.2.2).addresses = (k.ledger s).addresses ++
              [(k.ledger s).newAddress (normalizeEmail claimed.email) claimed.name])) ∧
    ∀ sender d claimed envelope, Sender.parse? sender = some claimed →
      Char.ofNat 0 ∉ claimed.email.toList → d.failure = none →
      Envelope.parse d.octets = .ok envelope →
      k.ask (.has (MessageId.ofContent d.octets)) s = .ok false →
      ∀ t, FailedAttempts k s t → ∀ now,
        let r := (attempt sender d).eval (k.backend.stamping now) t
        r.1 = (.ok (MessageId.ofContent d.octets), .resolved (MessageId.ofContent d.octets)) ∧
        ((k.ledger r.2).messages.map Message.id).count (MessageId.ofContent d.octets) = 1 ∧
        ((k.ledger r.2).addresses.map Address.email).count (normalizeEmail claimed.email) = 1 := by
  intro s
  obtain ⟨hvalid, hfilled⟩ := Service.filled_run_faulty k hes faults
  constructor
  · intro now faults' sender d e r he
    obtain ⟨hsession, -, hleftover⟩ := attempt_error hvalid he
    exact ⟨hsession, hleftover.messages, hleftover.addresses⟩
  · intro sender d claimed envelope hclaimed hemail hfailure henvelope hhas t ht now
    obtain ⟨hvalid', hfilled', hmessages⟩ := ht.keeps hvalid hfilled
    have hreading := Submission.reading_eq_ok_iff.mpr ⟨hclaimed, hfailure, henvelope⟩
    refine attempt_ok hvalid' hfilled' hreading hemail ?_ now
    -- no message has come in since, so none has the id
    have hnone : ((k.ledger s).message? (MessageId.ofContent d.octets)).isSome = false :=
      Except.ok.inj ((hvalid.ask_eq _).symm.trans hhas)
    rw [Option.isSome_eq_false_iff, Option.isNone_iff_eq_none] at hnone
    rw [Ledger.message?, hmessages]
    exact hnone

/-- A submission fails when its message is to be stored, and again when its sender is looked
up; then nothing fails. -/
theorem Session.retry_half_done :
    let d : Delivery := ⟨"To: c\n\nd".toUTF8.toList, none, 0⟩
    let id := MessageId.ofContent d.octets
    let disk : Failure := ⟨.other "disk", []⟩
    let start : Service (List (Option Failure) × Medium.memory.State) :=
      ⟨([none, none, some disk], Medium.memory.empty), fun _ => .receivingSender⟩
    let s := (Service.run Medium.memory.faulty [(1, .submit "Ann <A@b>" d)] start).2.store.2
    let t := (attempt "Ann <A@b>" d).eval (Medium.memory.faulty 2) ([some disk], s)
    let r := (attempt "Ann <A@b>" d).eval (Medium.memory.backend.stamping 3) t.2.2
    (Medium.memory.ledger s).addresses = [⟨1, "a@b", some "Ann"⟩] ∧
      t.1 = (.error (.storage disk), .rejected) ∧ r.1 = (.ok id, .resolved id) ∧
      ((Medium.memory.ledger r.2).messages.map Message.id).count id = 1 ∧
      ((Medium.memory.ledger r.2).addresses.map Address.email).count "a@b" = 1 := by
  intro d id disk start s t r
  have hindirect : ∀ x ∈ [((1 : Instant), Event.submit "Ann <A@b>" d)], x.2.Indirect := by
    simp [Event.Indirect]
  have hretry := (Session.retry .memory hindirect [none, none, some disk]).2
  have hclaimed : Sender.parse? "Ann <A@b>" = some ⟨some "Ann", "A@b"⟩ := by decide +kernel
  have hemail : normalizeEmail "A@b" = "a@b" := by decide +kernel
  obtain ⟨envelope, henvelope⟩ : ∃ e, Envelope.parse d.octets = .ok e := by
    have hok : (Envelope.parse d.octets).isOk = true := by decide +kernel
    rcases hparse : Envelope.parse d.octets with e | e
    · rw [hparse] at hok
      exact absurd hok (by simp [Except.isOk, Except.toBool])
    · exact ⟨e, rfl⟩
  have hfailed : t.1 = (.error (.storage disk), .rejected) := by decide +kernel
  have hone := hretry "Ann <A@b>" d _ envelope hclaimed (by decide) rfl henvelope
    (by decide +kernel) t.2.2 (.more .none (congrArg Prod.fst hfailed)) 3
  rw [hemail] at hone
  exact ⟨by decide +kernel, hfailed, hone⟩

end Maildrop
