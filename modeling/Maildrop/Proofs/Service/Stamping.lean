import Maildrop.Proofs.Service.Basic
import Maildrop.Proofs.Submission.Life

/-!
# Stamps and deliveries

A store at an instant stamps each message that it stores. As no program asks for the time,
and none stores a message but the one that has been delivered, this is the same as if the
delivery had come with the stamp to a store that leaves messages as they are
(`Maildrop.Event.eval_stamping`). So what is known of deliveries to a store holds at every
instant.
-/

namespace Maildrop

open Store (Action Call Client Server)

variable {σ : Type} (b : Server σ) (now : Instant)

/-! ### Programs that store nothing -/

/-- A program that stores no message does at an instant what it does at any time. -/
theorem Program.AtMost.eval_stamping {α : Type} {p : Client α}
    (h : p.AtMost Call.isInsertion 0) (s : σ) : p.eval (b.stamping now) s = p.eval b s := by
  generalize hn : 0 = n at h
  induction h generalizing s with
  | done a => rfl
  | log _ ih => exact ih s hn
  | @other n c next hc _ ih =>
    have hstep : (b.stamping now).step c s = b.step c s := by
      cases c with
      | insert m => exact absurd hc (by simp [Call.isInsertion])
      | _ => rfl
    rw [Program.eval_call, Program.eval_call, hstep]
    exact ih _ _ hn
  | counted => exact absurd hn (by omega)

/-! ### Submissions -/

/-- A delivery that has come at an instant. -/
def Delivery.stamped (d : Delivery) : Delivery := { d with receivedAt := now }

namespace Submission

/-- A message that is deposited is stamped as if it had been delivered so. -/
theorem eval_deposit_stamping (a : Address) (e : Envelope) (d : Delivery) (s : σ) :
    (deposit a e d).eval (b.stamping now) s = (deposit a e (d.stamped now)).eval b s := by
  have hduplicate : ∀ id raw t,
      (duplicate id raw).eval (b.stamping now) t = (duplicate id raw).eval b t := fun id raw t =>
    (atMost_duplicate id raw).eval_stamping b now t
  rw [deposit, deposit, Action.eval_bind_ok (eval_gistFor ..),
    Action.eval_bind_ok (eval_gistFor ..)]
  -- the store is asked for the same message, so it gives the same answer
  generalize hm : newMessage a e e.gist? (d.stamped now) = m
  have hstep : ((b.stamping now).step (.insert (newMessage a e e.gist? d)) s).result =
        (b.step (.insert m) s).result ∧
      ((b.stamping now).step (.insert (newMessage a e e.gist? d)) s).state =
        (b.step (.insert m) s).state := by
    rw [← hm]
    exact ⟨rfl, rfl⟩
  rcases hresult : (b.step (.insert m) s).result with f | _ | _
  · rw [Action.eval_ask_bind_error hresult, Action.eval_ask_bind_error (hstep.1.trans hresult),
      hstep.2]
  · rw [Action.eval_ask_bind hresult, Action.eval_ask_bind (hstep.1.trans hresult), hstep.2, ← hm]
    rfl
  · rw [Action.eval_ask_bind hresult, Action.eval_ask_bind (hstep.1.trans hresult), hstep.2, ← hm]
    exact hduplicate ..

/-- **A submission at an instant** is one of a delivery that has come at it. -/
theorem eval_accept_stamping (sender : String) (d : Delivery) (s : σ) :
    (accept sender d).eval (b.stamping now) s = (accept sender (d.stamped now)).eval b s := by
  rcases hreading : reading sender d with e | ⟨claimed, envelope⟩
  · rw [accept_of_reading_error hreading,
      accept_of_reading_error (d := d.stamped now) hreading]
    rfl
  · rw [accept_of_reading_ok hreading, accept_of_reading_ok (d := d.stamped now) hreading]
    have hregister : (Registry.getOrCreate claimed.email claimed.name).eval (b.stamping now) s =
        (Registry.getOrCreate claimed.email claimed.name).eval b s :=
      (Registry.atMost_getOrCreate ..).eval_stamping b now s
    simp only [Action.eval_bind, Action.eval_record, hregister]
    rcases (Registry.getOrCreate claimed.email claimed.name).eval b s with ⟨e | a, t⟩
    · rfl
    · exact eval_deposit_stamping b now a envelope d t

/-- A whole submission gives what its data give. -/
theorem eval_submit (sender : String) (d : Delivery) (s : σ) :
    (submit sender d).eval b s = (accept sender d).eval b s := by
  have hhear : (Session.receivingSender.hear sender).eval b s = (.receivingData sender, s) := rfl
  rw [submit, Program.eval_bind, hhear, Program.eval_bind, Session.eval_receive]
  generalize (accept sender d).eval b s = r
  rfl

end Submission

/-! ### Events -/

/-- A session at an instant receives data that have come at it. -/
theorem Session.eval_receive_stamping (s : Session) (d : Delivery) (t : σ) :
    (s.receive d).eval (b.stamping now) t = (s.receive (d.stamped now)).eval b t := by
  cases s with
  | receivingSender => rfl
  | receivingData sender => rw [eval_receive, eval_receive, Submission.eval_accept_stamping]
  | resolved id => rfl
  | rejected => rfl

namespace Mailbox

theorem atMost_content (id : String) : (content id).run.AtMost Call.isInsertion 0 :=
  .other rfl fun _ => .done _

theorem atMost_remove (ids : List String) : (remove ids).run.AtMost Call.isInsertion 0 := by
  have heach : (removeEach ids).run.AtMost Call.isInsertion 0 := by
    induction ids with
    | nil => exact .done _
    | cons id ids ih => exact Action.atMost_ask_bind rfl fun _ => ih
  exact Action.atMost_bind (n := 0) heach fun _ => .log (.done _)

theorem atMost_detail (id : String) : (detail id).run.AtMost Call.isInsertion 0 := by
  refine Action.atMost_ask_bind rfl ?_
  rintro (_ | m)
  · exact .done _
  · refine Action.atMost_ask_bind rfl ?_
    rintro (_ | a)
    · exact .done _
    · exact .done _

end Mailbox

namespace Event

/-- The delivery of an event. -/
def delivery? : Event → Option Delivery
  | .receive _ d => some d
  | .submit _ d => some d
  | _ => none

/-- An event whose data have come at an instant. -/
def stamped : Event → Event
  | .receive n d => .receive n (d.stamped now)
  | .submit sender d => .submit sender (d.stamped now)
  | e => e

/-- Nothing but a delivery stores a message, unless the store is called directly. -/
theorem atMost_program {e : Event} (hd : e.delivery? = none) (hc : ∀ m, e ≠ .call (.insert m))
    (ss : Sessions) : (e.program ss).AtMost Call.isInsertion 0 := by
  cases e with
  | hear n sender =>
    refine Program.AtMost.bind_none ?_ fun _ => .done _
    rw [Session.hear]
    split
    · exact .log (.done _)
    · exact .log (.done _)
  | receive n d => exact absurd hd (by simp [delivery?])
  | finish n => exact .log (.done _)
  | submit sender d => exact absurd hd (by simp [delivery?])
  | getOrCreate email name =>
    exact (Registry.atMost_getOrCreate email name).bind_none fun _ => .done _
  | find email => exact .other rfl fun _ => .done _
  | remove ids => exact (Mailbox.atMost_remove ids).bind_none fun _ => .done _
  | entries => exact .other rfl fun x => by cases x <;> exact .done _
  | summaries => exact .other rfl fun x => by cases x <;> exact .done _
  | content id => exact (Mailbox.atMost_content id).bind_none fun _ => .done _
  | headers id => exact .other rfl fun x => by cases x <;> exact .done _
  | body id => exact .other rfl fun x => by cases x <;> exact .done _
  | detail id => exact (Mailbox.atMost_detail id).bind_none fun _ => .done _
  | call c =>
    cases c with
    | insert m => exact absurd rfl (hc m)
    | _ => exact .other rfl fun _ => .done _

/-- **An event at an instant** does what it does if its data have come at it. -/
theorem eval_stamping {e : Event} (hc : ∀ m, e ≠ .call (.insert m)) (ss : Sessions) (s : σ) :
    (e.program ss).eval (b.stamping now) s = ((e.stamped now).program ss).eval b s := by
  rcases hd : e.delivery? with _ | d
  · have hsame : e.stamped now = e := by
      cases e <;> first | rfl | exact absurd hd (by simp [delivery?])
    rw [hsame, (atMost_program hd hc ss).eval_stamping]
  · cases e with
    | receive n d =>
      simp only [stamped, program, Program.eval_bind, Session.eval_receive_stamping]
      rfl
    | submit sender d =>
      simp only [stamped, program, Program.eval_bind, Submission.eval_submit,
        Submission.eval_accept_stamping]
      rfl
    | _ => exact absurd hd (by simp [delivery?])

end Event

/-- **An event on a valid store is answered as on its ledger**, at every instant, and leaves
there what it leaves on the ledger. -/
theorem Service.step_eq {k : Store.Medium} {s : Service k.State} (hs : k.Valid s.store) {e : Event}
    (hc : ∀ m, e ≠ .call (.insert m)) (now : Instant) :
    (step (k.backend.stamping now) e s).1 =
        (((e.stamped now).program s.sessions).eval k.rules.server (k.ledger s.store)).1.1 ∧
      k.Valid (step (k.backend.stamping now) e s).2.store ∧
      k.ledger (step (k.backend.stamping now) e s).2.store =
        (((e.stamped now).program s.sessions).eval k.rules.server (k.ledger s.store)).2 := by
  obtain ⟨hvalue, hvalid, hledger⟩ := hs.eval_eq ((e.stamped now).program s.sessions)
  rw [step, Event.eval_stamping k.backend now hc]
  exact ⟨congrArg Prod.fst hvalue, hvalid, hledger⟩

end Maildrop
