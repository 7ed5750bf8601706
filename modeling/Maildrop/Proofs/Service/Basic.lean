import Maildrop.Mailbox.Basic
import Maildrop.Mailbox.Summary
import Maildrop.Proofs.Store.Alike
import Maildrop.Proofs.Store.Medium
import Maildrop.Submission.Session
import Mathlib.Logic.Function.Basic

/-!
# A service

Everything that can be done with a store, by any number of parties: sessions go on,
senders are registered and looked up, the mailbox is read and cleared, and the store is
called directly. A *service* (`Maildrop.Service`) is a store together with all sessions,
of which each is at its beginning until something happens to it. What happens to a service
is an *event* (`Maildrop.Event`), and every event has a *reply* (`Maildrop.Reply`).

A store stamps a message with the instant at which it comes. Instants are given to a run
from outside, one for each event (`Maildrop.Service.run`), and nothing is assumed about
them: clocks may stand or go backwards.
-/

namespace Maildrop

open Store (Action Call Client Failure Medium Rules Server)

/-! ### Events and replies -/

/-- **What happens to a service.** Sessions go by number. -/
inductive Event where
  /-- A session hears a sender. -/
  | hear (session : Nat) (sender : String)
  /-- A session receives data. -/
  | receive (session : Nat) (d : Delivery)
  /-- A session is told that all is done. -/
  | finish (session : Nat)
  /-- A whole submission, in a session of its own. -/
  | submit (sender : String) (d : Delivery)
  /-- The address of an email is got, or made with a name. -/
  | getOrCreate (email : String) (name : Option String)
  /-- The address of an email is looked up. -/
  | find (email : String)
  /-- Messages are removed from the mailbox. -/
  | remove (ids : List String)
  /-- The mailbox is listed. -/
  | entries
  /-- The mailbox is listed with summaries. -/
  | summaries
  /-- The octets of a message are read. -/
  | content (id : String)
  /-- The header block of a message is read. -/
  | headers (id : String)
  /-- The body of a message is read. -/
  | body (id : String)
  /-- A message is shown with its sender. -/
  | detail (id : String)
  /-- The store is called directly. -/
  | call (c : Call)

/-- **What an event is answered.** -/
inductive Reply where
  | heard (s : Session)
  | received (result : Except Submission.Error String) (s : Session)
  | finished
  | submitted (result : Except Submission.Error String)
  | address (result : Except Submission.Error Address)
  | found (result : Except Failure (Option Address))
  | removed (result : Except Failure Unit)
  | entries (result : Except Failure (List Mailbox.Entry))
  | summaries (result : Except Failure (List Mailbox.Summary))
  | octets (result : Except Failure (Option Bytes))
  | detail (result : Except Failure (Option Mailbox.Detail))
  | called (c : Call) (result : c.Result)

/-- All sessions, by number. -/
abbrev Sessions := Nat → Session

namespace Event

/-- **What an event does**: a program that gives the reply and the sessions afterwards. -/
def program (ss : Sessions) : Event → Client (Reply × Sessions)
  | .hear n sender => do
    let s ← (ss n).hear sender
    pure (.heard s, Function.update ss n s)
  | .receive n d => do
    let r ← (ss n).receive d
    pure (.received r.1 r.2, Function.update ss n r.2)
  | .finish n => do
    (ss n).finish
    pure (.finished, ss)
  | .submit sender d => do
    let r ← Submission.submit sender d
    pure (.submitted r, ss)
  | .getOrCreate email name => do
    let r ← (Registry.getOrCreate email name).run
    pure (.address r, ss)
  | .find email => do
    let r ← (Registry.find email).run
    pure (.found r, ss)
  | .remove ids => do
    let r ← (Mailbox.remove ids).run
    pure (.removed r, ss)
  | .entries => do
    let r ← Mailbox.entries.run
    pure (.entries r, ss)
  | .summaries => do
    let r ← Mailbox.summaries.run
    pure (.summaries r, ss)
  | .content id => do
    let r ← (Mailbox.content id).run
    pure (.octets r, ss)
  | .headers id => do
    let r ← (Mailbox.headers id).run
    pure (.octets r, ss)
  | .body id => do
    let r ← (Mailbox.body id).run
    pure (.octets r, ss)
  | .detail id => do
    let r ← (Mailbox.detail id).run
    pure (.detail r, ss)
  | .call c => do
    let r ← Program.ask c
    pure (.called c r, ss)

end Event

/-! ### Clocks -/

section Clock

variable {σ τ : Type}

/-- **A store at an instant**: it stamps with it what is stored. -/
def Store.Server.stamping (b : Server σ) (now : Instant) : Server σ where
  step c s :=
    match c with
    | .insert m =>
      let o := b.step (.insert { m with receivedAt := now }) s
      ⟨o.result, o.state, o.log⟩
    | c => b.step c s

/-- What stands for a store does so at every instant. -/
theorem Refines.stamping {b : Server σ} {b' : Server τ} {R : σ → τ → Prop}
    (h : Refines b b' R) (now : Instant) : Refines (b.stamping now) (b'.stamping now) R where
  result c s t hst := by
    cases c with
    | insert m => exact h.result (.insert { m with receivedAt := now }) s t hst
    | _ => exact h.result _ s t hst
  state c s t hst := by
    cases c with
    | insert m => exact h.state (.insert { m with receivedAt := now }) s t hst
    | _ => exact h.state _ s t hst

end Clock

/-! ### Services -/

/-- **A service**: a store and all sessions. -/
structure Service (σ : Type) where
  store : σ
  sessions : Sessions := fun _ => .receivingSender

namespace Service

variable {σ : Type}

/-- What an event does to a service. -/
def step (b : Server σ) (e : Event) (s : Service σ) : Reply × Service σ :=
  let r := (e.program s.sessions).eval b s.store
  (r.1.1, ⟨r.2, r.1.2⟩)

/-- **What happens to a service**: events, each at its instant, with their replies. -/
def run (b : Instant → Server σ) : List (Instant × Event) → Service σ → List Reply × Service σ
  | [], s => ([], s)
  | (now, e) :: es, s =>
    let r := step (b now) e s
    let rest := run b es r.2
    (r.1 :: rest.1, rest.2)

end Service

/-- **What happens to an empty service of a kind.** -/
def Store.Medium.serve (k : Medium) (es : List (Instant × Event)) :
    List Reply × Service k.State :=
  Service.run k.backend.stamping es ⟨k.empty, fun _ => .receivingSender⟩

/-- Whatever happens to a service, its store stays valid. -/
theorem Service.valid_run {k : Medium} (es : List (Instant × Event)) {s : Service k.State}
    (hs : k.Valid s.store) : k.Valid (run k.backend.stamping es s).2.store := by
  induction es generalizing s with
  | nil => exact hs
  | cons x es ih =>
    exact ih ((k.refines.stamping x.1).eval (x.2.program s.sessions) ⟨hs, rfl⟩).2.1

theorem Store.Medium.valid_serve (k : Medium) (es : List (Instant × Event)) :
    k.Valid (k.serve es).2.store :=
  Service.valid_run es (s := ⟨k.empty, _⟩) k.valid_empty

end Maildrop
