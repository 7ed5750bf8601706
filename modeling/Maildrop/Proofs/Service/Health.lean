import Maildrop.Proofs.Mailbox.Removal
import Maildrop.Proofs.Mailbox.Views
import Maildrop.Proofs.Service.Ingested
import Maildrop.Proofs.Service.Stamping

/-!
# The health of a service

A service on an empty store that works, and that nobody writes to directly, finds no fault
with its store, whatever happens to it: no reply is that the store has failed, that an email
has been lost or that a sender is missing, and no submission finds another message under the
id of its content, as long as no two contents that are submitted have one digest. A
submission that fails does so for one of the reasons that a submitter can be told, and it is
turned away as a resubmission only if its content has been accepted before and has not been
deleted since (`Maildrop.Service.healthy_serve`).

The store is sound at all times, which is why nothing is missing. The rest is a matter of
history: what the store holds are the contents that have been accepted and not deleted since
(`Maildrop.Accepted`), and this is carried through the run from event to event
(`Maildrop.Event.answered`).
-/

namespace Maildrop

open Store (Action Call Client Failure Ledger Medium Rules Server)

/-! ### Healthy replies -/

/-- Whether an error is about the store rather than about what is submitted to it. -/
def Submission.Error.isOfStore : Submission.Error → Bool
  | .idCollision _ | .addressReconciliation _ | .storage _ => true
  | _ => false

/-- **Whether a reply finds no fault with the store.** -/
def Reply.isHealthy : Reply → Bool
  | .heard _ | .finished => true
  | .received (.error e) _ | .submitted (.error e) => !e.isOfStore
  | .received (.ok _) _ | .submitted (.ok _) => true
  | .address r => r.isOk
  | .found r => r.isOk
  | .removed r => r.isOk
  | .entries r => r.isOk
  | .summaries r => r.isOk
  | .octets r => r.isOk
  | .detail r => r.isOk
  | .called _ r => r.isOk

/-- The verdict on a delivery, in the reply to it. -/
def Reply.verdict? : Reply → Option (Except Submission.Error String)
  | .received r _ => some r
  | .submitted r => some r
  | _ => none

/-- A delivery that has been accepted has a healthy reply. -/
theorem Reply.isHealthy_of_ok {r : Reply} {id : String} (h : r.verdict? = some (.ok id)) :
    r.isHealthy := by
  cases r <;> cases h <;> rfl

/-- So has one that has been turned away for a reason of its own. -/
theorem Reply.isHealthy_of_error {r : Reply} {e : Submission.Error}
    (h : r.verdict? = some (.error e)) (he : e.isOfStore = false) : r.isHealthy := by
  cases r <;> cases h <;> simp [isHealthy, he]

/-- The content that an event submits. -/
def Event.octets? (e : Event) : Option Bytes := e.delivery?.map Delivery.octets

/-- Whether an event deletes the message of an id. -/
def Event.deletes (id : String) : Event → Bool
  | .remove ids => id ∈ ids
  | .call (.delete x) => x = id
  | _ => false

/-- When data come makes no difference to what is submitted, or deleted. -/
@[simp] theorem Event.octets?_stamped (now : Instant) (e : Event) :
    (e.stamped now).octets? = e.octets? := by
  cases e <;> rfl

@[simp] theorem Event.deletes_stamped (now : Instant) (e : Event) (id : String) :
    (e.stamped now).deletes id = e.deletes id := by
  cases e <;> rfl

/-! ### One event -/

/-- **What an event does to a ledger, and what it is answered.** -/
structure Answered (l : Ledger) (e : Event) (r : Reply) (l' : Ledger) : Prop where
  healthy : r.isHealthy
  /-- What is turned away as a resubmission is there. -/
  resubmitted : ∀ id, r.verdict? = some (.error (.resubmission id)) →
    ∃ m ∈ l.messages, e.octets? = some m.raw ∧ id = MessageId.ofContent m.raw
  /-- What is there afterwards was there before and has not been deleted, or has been
  accepted. -/
  messages : ∀ m ∈ l'.messages, (m ∈ l.messages ∧ e.deletes m.id = false) ∨
    (e.octets? = some m.raw ∧ m.id = MessageId.ofContent m.raw ∧ r.verdict? = some (.ok m.id))

namespace Submission

/-- A reading fails for a reason that is no fault of the store. -/
theorem isOfStore_of_reading_error {sender : String} {d : Delivery} {e : Error}
    (h : reading sender d = .error e) : e.isOfStore = false ∧ ∀ id, e ≠ .resubmission id := by
  rw [reading] at h
  split at h
  · cases h
    exact ⟨rfl, by simp⟩
  · cases h
    exact ⟨rfl, by simp⟩
  · cases h
    exact ⟨rfl, by simp⟩
  · exact absurd h (by simp)

variable {r : Rules} {l : Ledger}

/-- **A submission to a sound ledger** stores its message, or fails for a reason that is no
fault of the ledger; and if it is turned away as a resubmission, its content is there. -/
theorem accept_cases (hl : r.Sound l) (sender : String) {d : Delivery}
    (hids : ∀ m ∈ l.messages, m.id = MessageId.ofContent d.octets → m.raw = d.octets) :
    (∃ l', (accept sender d).eval r.server l = (.ok (MessageId.ofContent d.octets), l') ∧
      ∃ x : Message, x.id = MessageId.ofContent d.octets ∧ x.raw = d.octets ∧
        l'.messages = l.messages ++ [x]) ∨
    (∃ e l', (accept sender d).eval r.server l = (.error e, l') ∧ l'.messages = l.messages ∧
      e.isOfStore = false ∧
      ∀ id, e = .resubmission id → id = MessageId.ofContent d.octets ∧
        ∃ x ∈ l.messages, x.raw = d.octets) := by
  rcases hreading : reading sender d with e | ⟨claimed, envelope⟩
  · obtain ⟨hstore, hnot⟩ := isOfStore_of_reading_error hreading
    rw [accept_of_reading_error hreading]
    exact .inr ⟨e, l, rfl, rfl, hstore, fun id hid => absurd hid (hnot id)⟩
  · have heval := eval_accept hl hreading
    have hregister := Rules.messages_register (r := r) (l := l) claimed.email claimed.name
    rcases hm : l.message? (MessageId.ofContent d.octets) with _ | m
    · simp only [hm, verdict, hreading, Option.map_none, Option.isSome_none, Bool.false_eq_true,
        if_false] at heval
      refine .inl ⟨_, heval, (newMessage (r.resolve l claimed.email claimed.name) envelope
        envelope.gist? d).stored, rfl, rfl, ?_⟩
      rw [Ledger.addMessage, hregister]
    · -- what is in the way has the id of the content, so it has the content
      have hraw := hids m (Ledger.mem_of_message? hm) (Ledger.id_of_message? hm)
      simp only [hm, verdict, hreading, Option.map_some, hraw, Option.isSome_some, if_true]
        at heval
      refine .inr ⟨_, _, heval, hregister, rfl, fun id hid => ⟨?_, m, ?_, hraw⟩⟩
      · exact (Error.resubmission.inj hid).symm
      · exact Ledger.mem_of_message? hm

end Submission

namespace Answered

variable {l l' : Ledger} {e : Event} {r : Reply}

/-- An event that neither brings nor deletes anything. -/
theorem of_reading (hdeletes : ∀ id, e.deletes id = false) (hverdict : r.verdict? = none)
    (hr : r.isHealthy) (hl : l'.messages = l.messages) : Answered l e r l' where
  healthy := hr
  resubmitted id hid := absurd (hverdict.symm.trans hid) (by simp)
  messages m hm := .inl ⟨hl ▸ hm, hdeletes m.id⟩

/-- **A submission.** -/
theorem of_accept {rules : Rules} (hsound : rules.Sound l) {sender : String} {d : Delivery}
    (hids : ∀ m ∈ l.messages, m.id = MessageId.ofContent d.octets → m.raw = d.octets)
    (hoctets : e.octets? = some d.octets) (hdeletes : ∀ id, e.deletes id = false)
    (hverdict : r.verdict? = some ((Submission.accept sender d).eval rules.server l).1) :
    Answered l e r ((Submission.accept sender d).eval rules.server l).2 := by
  obtain ⟨l', heval, x, hid, hraw, hl'⟩ | ⟨err, l', heval, hl', hstore, hresubmitted⟩ :=
    Submission.accept_cases hsound sender hids
  · rw [heval] at hverdict ⊢
    refine ⟨Reply.isHealthy_of_ok hverdict, fun id h => ?_, fun m hm => ?_⟩
    · exact absurd (hverdict.symm.trans h) (by simp)
    · rw [hl'] at hm
      rcases List.mem_append.mp hm with hm | hm
      · exact .inl ⟨hm, hdeletes m.id⟩
      · obtain rfl := List.mem_singleton.mp hm
        exact .inr ⟨by rw [hraw, hoctets], by rw [hid, hraw], by rw [hid, hverdict]⟩
  · rw [heval] at hverdict ⊢
    refine ⟨Reply.isHealthy_of_error hverdict hstore, fun id h => ?_, fun m hm => ?_⟩
    · obtain ⟨hid, m, hm, hraw⟩ :=
        hresubmitted id (Except.error.inj (Option.some.inj (hverdict.symm.trans h)))
      exact ⟨m, hm, by rw [hraw, hoctets], by rw [hid, hraw]⟩
    · exact .inl ⟨hl' ▸ hm, hdeletes m.id⟩

/-- Data that a session does not hand on. -/
theorem of_refused (hdeletes : ∀ id, e.deletes id = false) {err : Submission.Error}
    (hverdict : r.verdict? = some (.error err)) (hstore : err.isOfStore = false)
    (hnot : ∀ id, err ≠ .resubmission id) (hl : l'.messages = l.messages) :
    Answered l e r l' where
  healthy := Reply.isHealthy_of_error hverdict hstore
  resubmitted id h :=
    absurd (Except.error.inj (Option.some.inj (hverdict.symm.trans h))) (hnot id)
  messages m hm := .inl ⟨hl ▸ hm, hdeletes m.id⟩

/-- What is said about an event does not depend on when its data have come. -/
theorem of_stamped (now : Instant) (h : Answered l (e.stamped now) r l') : Answered l e r l' := by
  obtain ⟨hhealthy, hresubmitted, hmessages⟩ := h
  simp only [Event.octets?_stamped, Event.deletes_stamped] at hresubmitted hmessages
  exact ⟨hhealthy, hresubmitted, hmessages⟩

end Answered

/-- **An event on a sound ledger is answered as it should be.** -/
theorem Event.answered {r : Rules} {l : Ledger} (hl : r.Sound l) {e : Event} (he : e.Indirect)
    (hids : ∀ raw, e.octets? = some raw →
      ∀ m ∈ l.messages, m.id = MessageId.ofContent raw → m.raw = raw) (ss : Sessions) :
    Answered l e ((e.program ss).eval r.server l).1.1 ((e.program ss).eval r.server l).2 := by
  cases e with
  | hear n sender =>
    simp only [program, Program.eval_bind, Program.eval_pure]
    refine .of_reading (fun _ => rfl) rfl rfl ?_
    rw [Session.hear]
    split <;> rfl
  | receive n d =>
    simp only [program, Program.eval_bind, Program.eval_pure]
    cases hs : ss n with
    | receivingData sender =>
      rw [Session.eval_receive]
      exact .of_accept hl (hids d.octets rfl) rfl (fun _ => rfl) rfl
    | _ => exact .of_refused (fun _ => rfl) rfl rfl (by simp) rfl
  | finish n => exact .of_reading (fun _ => rfl) rfl rfl rfl
  | submit sender d =>
    simp only [program, Program.eval_bind, Program.eval_pure, Submission.eval_submit]
    exact .of_accept hl (hids d.octets rfl) rfl (fun _ => rfl) rfl
  | getOrCreate email name =>
    simp only [program, Program.eval_bind, Program.eval_pure, Action.eval_run,
      Registry.eval_getOrCreate]
    exact .of_reading (fun _ => rfl) rfl rfl (Rules.messages_register email name)
  | find email => exact .of_reading (fun _ => rfl) rfl rfl rfl
  | remove ids =>
    simp only [program, Program.eval_bind, Program.eval_pure, Action.eval_run,
      Mailbox.eval_remove]
    refine ⟨rfl, fun id hid => absurd hid (by simp [Reply.verdict?]), fun m hm => .inl ?_⟩
    obtain ⟨hmem, hnot⟩ := List.mem_filter.mp hm
    exact ⟨hmem, decide_eq_false (of_decide_eq_true hnot)⟩
  | entries => exact .of_reading (fun _ => rfl) rfl rfl rfl
  | summaries => exact .of_reading (fun _ => rfl) rfl rfl rfl
  | content id => exact .of_reading (fun _ => rfl) rfl rfl rfl
  | headers id => exact .of_reading (fun _ => rfl) rfl rfl rfl
  | body id => exact .of_reading (fun _ => rfl) rfl rfl rfl
  | detail id =>
    simp only [program, Program.eval_bind, Program.eval_pure, Action.eval_run]
    rcases hm : l.message? id with _ | m
    · rw [Mailbox.eval_detail_of_none r l hm]
      exact .of_reading (fun _ => rfl) rfl rfl rfl
    · -- a message that is there has its sender
      obtain ⟨a, ha⟩ := Option.isSome_iff_exists.mp (hl.known m (Ledger.mem_of_message? hm))
      rw [Mailbox.eval_detail_of_some r l hm ha]
      exact .of_reading (fun _ => rfl) rfl rfl rfl
  | call c =>
    cases c with
    | createAddress email name => exact he.elim
    | insert m => exact he.elim
    | delete id =>
      refine ⟨rfl, fun _ hid => absurd (show none = _ from hid) (by simp), fun m hm => .inl ?_⟩
      obtain ⟨hmem, hne⟩ := List.mem_filter.mp hm
      exact ⟨hmem, decide_eq_false (Ne.symm (of_decide_eq_true hne))⟩
    | _ => exact .of_reading (fun _ => rfl) rfl rfl rfl

/-! ### A whole run -/

namespace Service

/-- **An event on a valid store is answered as it should be**, at every instant, and leaves
the store valid. -/
theorem answered_step {k : Medium} {s : Service k.State} (hs : k.Valid s.store) {e : Event}
    (he : e.Indirect)
    (hids : ∀ raw, e.octets? = some raw →
      ∀ m ∈ (k.ledger s.store).messages, m.id = MessageId.ofContent raw → m.raw = raw)
    (now : Instant) :
    k.Valid (step (k.backend.stamping now) e s).2.store ∧
      Answered (k.ledger s.store) e (step (k.backend.stamping now) e s).1
        (k.ledger (step (k.backend.stamping now) e s).2.store) := by
  have hindirect : (e.stamped now).Indirect := by cases e <;> exact he
  have hnot : ∀ m, e ≠ .call (.insert m) := by
    rintro m rfl
    exact he
  obtain ⟨hvalue, hvalid, hledger⟩ := hs.eval_eq ((e.stamped now).program s.sessions)
  have hanswered := Event.answered hs.sound hindirect
    (fun raw hraw => hids raw ((Event.octets?_stamped now e).symm.trans hraw)) s.sessions
  rw [step, Event.eval_stamping k.backend now hnot]
  refine ⟨hvalid, .of_stamped now ?_⟩
  simp only [hvalue, hledger]
  exact hanswered

variable {σ : Type} {b : Instant → Server σ}

theorem run_append (es es' : List (Instant × Event)) (s : Service σ) :
    run b (es ++ es') s =
      ((run b es s).1 ++ (run b es' (run b es s).2).1, (run b es' (run b es s).2).2) := by
  induction es generalizing s with
  | nil => rfl
  | cons x es ih => simp only [List.cons_append, run, ih]

theorem serve_concat (k : Medium) (es : List (Instant × Event)) (now : Instant) (e : Event) :
    k.serve (es ++ [(now, e)]) =
      ((k.serve es).1 ++ [(step (k.backend.stamping now) e (k.serve es).2).1],
        (step (k.backend.stamping now) e (k.serve es).2).2) :=
  run_append es [(now, e)] _

theorem length_run (es : List (Instant × Event)) (s : Service σ) :
    (run b es s).1.length = es.length := by
  induction es generalizing s with
  | nil => rfl
  | cons x es ih => exact congrArg (· + 1) (ih _)

end Service

/-- **What has happened in a run**: the events with their replies, oldest first. -/
def Store.Medium.exchanges (k : Medium) (es : List (Instant × Event)) : List (Event × Reply) :=
  (es.map Prod.snd).zip (k.serve es).1

/-- **A content has been accepted and has not been deleted since.** -/
def Accepted (raw : Bytes) (h : List (Event × Reply)) : Prop :=
  ∃ before x after, h = before ++ x :: after ∧ x.1.octets? = some raw ∧
    x.2.verdict? = some (.ok (MessageId.ofContent raw)) ∧
    ∀ y ∈ after, y.1.deletes (MessageId.ofContent raw) = false

namespace Accepted

variable {raw : Bytes} {h : List (Event × Reply)} {x : Event × Reply}

/-- What has been accepted just now. -/
theorem last (hoctets : x.1.octets? = some raw)
    (hverdict : x.2.verdict? = some (.ok (MessageId.ofContent raw))) : Accepted raw (h ++ [x]) :=
  ⟨h, x, [], rfl, hoctets, hverdict, by simp⟩

/-- What has been accepted stays so if it is not deleted. -/
theorem keep (hr : Accepted raw h) (hx : x.1.deletes (MessageId.ofContent raw) = false) :
    Accepted raw (h ++ [x]) := by
  obtain ⟨before, y, after, rfl, hoctets, hverdict, hafter⟩ := hr
  refine ⟨before, y, after ++ [x], by simp, hoctets, hverdict, fun z hz => ?_⟩
  rcases List.mem_append.mp hz with hz | hz
  · exact hafter z hz
  · rwa [List.mem_singleton.mp hz]

/-- What has been accepted has been submitted. -/
theorem exists_mem (hr : Accepted raw h) : ∃ x ∈ h, x.1.octets? = some raw := by
  obtain ⟨before, x, after, rfl, hoctets, -⟩ := hr
  exact ⟨x, by simp, hoctets⟩

end Accepted

/-- The contents that are submitted in a run. -/
def Event.contents (es : List (Instant × Event)) : List Bytes := es.filterMap fun x => x.2.octets?

/-- **No two different contents that are submitted have one digest.** -/
def Event.Apart (es : List (Instant × Event)) : Prop :=
  ∀ a ∈ contents es, ∀ b ∈ contents es, Sha256.digest a = Sha256.digest b → a = b

instance (es : List (Instant × Event)) : Decidable (Event.Apart es) :=
  inferInstanceAs (Decidable (∀ a ∈ Event.contents es, ∀ b ∈ Event.contents es, _ → a = b))

theorem Event.mem_contents {es : List (Instant × Event)} {x : Instant × Event} (hx : x ∈ es)
    {raw : Bytes} (hraw : x.2.octets? = some raw) : raw ∈ contents es :=
  List.mem_filterMap.mpr ⟨x, hx, hraw⟩

/-- A part of a run submits no more than the whole. -/
theorem Event.Apart.mono {es es' : List (Instant × Event)} (h : Event.Apart es)
    (hsub : es' ⊆ es) : Event.Apart es' := by
  have hmem : ∀ a ∈ contents es', a ∈ contents es := by
    intro a ha
    obtain ⟨x, hx, hoctets⟩ := List.mem_filterMap.mp ha
    exact mem_contents (hsub hx) hoctets
  exact fun a ha b hb => h a (hmem a ha) b (hmem b hb)

namespace Service

variable {k : Medium} {es es' : List (Instant × Event)}

theorem exchanges_append :
    k.exchanges (es ++ es') =
      k.exchanges es ++ (es'.map Prod.snd).zip (run k.backend.stamping es' (k.serve es).2).1 := by
  rw [Medium.exchanges, Medium.serve, run_append, List.map_append]
  exact List.zip_append (by rw [List.length_map, length_run])

/-- A moment of a run, by what has happened before it. -/
theorem exists_of_exchanges_eq {before after : List (Event × Reply)} {x : Event × Reply}
    (h : k.exchanges es = before ++ x :: after) :
    ∃ es₁ now es₂, es = es₁ ++ (now, x.1) :: es₂ ∧ before = k.exchanges es₁ ∧
      x.2 = (step (k.backend.stamping now) x.1 (k.serve es₁).2).1 := by
  have hlength : ∀ es, (k.exchanges es).length = es.length := fun es => by
    rw [Medium.exchanges, List.length_zip, List.length_map, Medium.serve, length_run,
      Nat.min_self]
  have hlt : before.length < es.length := by
    rw [← hlength, h, List.length_append, List.length_cons]
    omega
  obtain ⟨es₁, ⟨now, e⟩, es₂, rfl, hes₁⟩ :
      ∃ es₁ y es₂, es = es₁ ++ y :: es₂ ∧ es₁.length = before.length := by
    refine ⟨es.take before.length, es[before.length], es.drop (before.length + 1), ?_, ?_⟩
    · rw [← List.drop_eq_getElem_cons, List.take_append_drop]
    · rw [List.length_take, Nat.min_eq_left hlt.le]
  rw [exchanges_append] at h
  obtain ⟨hbefore, htail⟩ := List.append_inj h (by rw [hlength, hes₁])
  obtain ⟨hx, -⟩ := List.cons.inj htail
  exact ⟨es₁, now, es₂, by rw [← hx], hbefore.symm, by rw [← hx]⟩

/-- What is found under the id of a content that is submitted is that content. -/
theorem raw_eq_of_id (happart : Event.Apart es) {x : Instant × Event} (hx : x ∈ es)
    (hsub : es' ⊆ es) {raw : Bytes} (hraw : x.2.octets? = some raw) {m : Message}
    (hnamed : m.id = MessageId.ofContent m.raw) (haccepted : Accepted m.raw (k.exchanges es'))
    (hid : m.id = MessageId.ofContent raw) : m.raw = raw := by
  obtain ⟨y, hy, hoctets⟩ := haccepted.exists_mem
  obtain ⟨z, hz, hzy⟩ := List.mem_map.mp (List.of_mem_zip hy).1
  refine happart m.raw (Event.mem_contents (hsub hz) ?_) raw (Event.mem_contents hx hraw)
    ((MessageId.ofContent_eq_iff _ _).mp (hnamed.symm.trans hid))
  rw [hzy, hoctets]

/-- **What the store holds has been accepted and not deleted since.** -/
theorem accepted_serve (hes : ∀ x ∈ es, x.2.Indirect) (happart : Event.Apart es) :
    k.Valid (k.serve es).2.store ∧ ∀ m ∈ (k.ledger (k.serve es).2.store).messages,
      m.id = MessageId.ofContent m.raw ∧ Accepted m.raw (k.exchanges es) := by
  induction es using List.reverseRecOn with
  | nil =>
    refine ⟨k.valid_empty, ?_⟩
    change ∀ m ∈ (k.ledger k.empty).messages, _
    rw [k.ledger_empty]
    simp
  | append_singleton es x ih =>
    obtain ⟨now, e⟩ := x
    obtain ⟨hvalid, hmessages⟩ := ih (fun x hx => hes x (List.mem_append_left _ hx))
      (happart.mono (List.subset_append_left ..))
    obtain ⟨hvalid', hanswered⟩ := answered_step hvalid (hes (now, e) (by simp))
      (fun raw hraw m hm => raw_eq_of_id happart (x := (now, e)) (by simp)
        (List.subset_append_left es _) hraw (hmessages m hm).1 (hmessages m hm).2) now
    rw [serve_concat, exchanges_append]
    refine ⟨hvalid', fun m hm => ?_⟩
    obtain ⟨hm, hdeletes⟩ | ⟨hoctets, hnamed, hverdict⟩ := hanswered.messages m hm
    · obtain ⟨hnamed, haccepted⟩ := hmessages m hm
      exact ⟨hnamed, haccepted.keep (hnamed ▸ hdeletes)⟩
    · exact ⟨hnamed, .last hoctets (hnamed ▸ hverdict)⟩

/-- **A healthy run.** -/
structure Healthy (k : Medium) (es : List (Instant × Event)) : Prop where
  /-- No reply finds fault with the store. -/
  replies : ∀ r ∈ (k.serve es).1, r.isHealthy
  /-- What is turned away as a resubmission has been accepted before, and has not been deleted
  since. -/
  resubmissions : ∀ before x after, k.exchanges es = before ++ x :: after →
    ∀ id, x.2.verdict? = some (.error (.resubmission id)) →
      ∃ raw, x.1.octets? = some raw ∧ id = MessageId.ofContent raw ∧ Accepted raw before

/-- **A service whose store works is healthy**, whatever happens to it, if it is written to
only through sessions, submissions and the registry, and if no two different contents that
are submitted have one digest. -/
theorem healthy_serve (k : Medium) {es : List (Instant × Event)} (hes : ∀ x ∈ es, x.2.Indirect)
    (happart : Event.Apart es) : Healthy k es := by
  -- each moment of the run is an event on what the store holds then
  have hmoment : ∀ before x after, k.exchanges es = before ++ x :: after → x.2.isHealthy ∧
      ∀ id, x.2.verdict? = some (.error (.resubmission id)) →
        ∃ raw, x.1.octets? = some raw ∧ id = MessageId.ofContent raw ∧ Accepted raw before := by
    intro before x after h
    obtain ⟨es₁, now, es₂, rfl, rfl, hreply⟩ := exists_of_exchanges_eq h
    have hsub : es₁ ⊆ es₁ ++ (now, x.1) :: es₂ := List.subset_append_left ..
    obtain ⟨hvalid, hmessages⟩ := accepted_serve (k := k) (fun x hx => hes x (hsub hx))
      (happart.mono hsub)
    obtain ⟨-, hanswered⟩ := answered_step hvalid (hes (now, x.1) (by simp))
      (fun raw hraw m hm => raw_eq_of_id happart (x := (now, x.1)) (by simp) hsub hraw
        (hmessages m hm).1 (hmessages m hm).2) now
    rw [hreply]
    refine ⟨hanswered.healthy, fun id hid => ?_⟩
    obtain ⟨m, hm, hoctets, hid⟩ := hanswered.resubmitted id hid
    exact ⟨m.raw, hoctets, hid, (hmessages m hm).2⟩
  refine ⟨fun r hr => ?_, fun before x after h => (hmoment before x after h).2⟩
  have hreplies : (k.exchanges es).map Prod.snd = (k.serve es).1 :=
    List.map_snd_zip (by rw [Medium.serve, length_run, List.length_map])
  obtain ⟨x, hx, rfl⟩ := List.mem_map.mp (hreplies ▸ hr)
  obtain ⟨before, after, h⟩ := List.append_of_mem hx
  exact (hmoment before x after h).1

/-- A content is accepted, turned away, removed, and accepted again. -/
theorem healthy_serve_again :
    let d : Delivery := ⟨"To: c\n\nd".toUTF8.toList, none, 0⟩
    let id := MessageId.ofContent d.octets
    let es := [(1, .hear 0 "Ann <A@b>"), (2, .receive 0 d), (2, .submit "e@f" d),
      (3, .remove [id]), (1, .submit "e@f" d), (4, .detail id)]
    (Medium.memory.serve es).1.map Reply.verdict? =
        [none, some (.ok id), some (.error (.resubmission id)), none, some (.ok id), none] ∧
      Healthy .memory es := by
  intro d id es
  exact ⟨by decide +kernel,
    healthy_serve .memory (by simp [es, Event.Indirect]) (by decide +kernel)⟩

end Service

end Maildrop
