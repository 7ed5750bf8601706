import Maildrop.Proofs.Registry.Records
import Maildrop.Proofs.Service.Health

/-!
# The first sighting of a sender

The record of a sender is made when its email is *sighted* for the first time, and never
changes: it has the name that was claimed then, and the number that was next. Later
sightings of the email, in whatever spelling and under whatever name, lead to this record
(`Maildrop.Service.first_sighting`).

An email is sighted by the registry, and by a submission that has been read
(`Maildrop.Event.sighting?`): its sender is one, its data have come to their end, and they
are a message. Whether the message is stored then is of no concern, so a duplicate is a
sighting and a malformed message is none. What has been sighted in a run can be told from
the events alone (`Maildrop.Event.sightings`), without the store and without the replies, and
so can the records (`Maildrop.Registry.records`). That the store holds these records is
carried through the run from event to event (`Maildrop.Service.Follows`).

All emails are to be without zero characters; those with one may be taken for each other by
a database.
-/

namespace Maildrop

open Store (Action Call Client Ledger Medium Rules Server)

/-! ### What is sighted -/

/-- What a delivery from a sender sights, if it can be read. -/
def Submission.sighting? (sender : String) (d : Delivery) : Option Sender :=
  match reading sender d with
  | .ok (claimed, _) => some ⟨claimed.name, normalizeEmail claimed.email⟩
  | .error _ => none

namespace Event

/-- Whether an event is that a session receives data. -/
def receives (n : Nat) : Event → Bool
  | .receive i _ => i = n
  | _ => false

/-- The sender that a session hears. -/
def heard? (n : Nat) : Event → Option String
  | .hear i sender => if i = n then some sender else none
  | _ => none

/-- The sender from which a session awaits data after some events: the last one that it has
heard, unless it has received data already. -/
def awaited? (n : Nat) (past : List Event) : Option String :=
  if past.any (receives n) then none else (past.filterMap (heard? n)).getLast?

/-- **What an event sights** after some others: the name that it claims, and the email in
normal form. -/
def sighting? (past : List Event) : Event → Option Sender
  | .getOrCreate email name => some ⟨name, normalizeEmail email⟩
  | .submit sender d => Submission.sighting? sender d
  | .receive n d => (awaited? n past).bind fun sender => Submission.sighting? sender d
  | _ => none

/-- What some events sight after others. -/
def sightingsFrom (past : List Event) : List Event → List Sender
  | [] => []
  | e :: es => (e.sighting? past).toList ++ sightingsFrom (past ++ [e]) es

/-- **The sightings of a run**, oldest first. -/
def sightings (es : List Event) : List Sender := sightingsFrom [] es

theorem sightingsFrom_concat (past es : List Event) (e : Event) :
    sightingsFrom past (es ++ [e]) =
      sightingsFrom past es ++ (e.sighting? (past ++ es)).toList := by
  induction es generalizing past with
  | nil => simp [sightingsFrom]
  | cons x es ih => simp [sightingsFrom, ih]

theorem sightings_concat (es : List Event) (e : Event) :
    sightings (es ++ [e]) = sightings es ++ (e.sighting? es).toList :=
  sightingsFrom_concat [] es e

end Event

/-! ### Plain emails -/

/-- The text claims no email with a zero character. -/
def Sender.NulFree (sender : String) : Prop :=
  ∀ claimed, Sender.parse? sender = some claimed → Char.ofNat 0 ∉ claimed.email.toList

/-- A text without a zero character claims none. -/
theorem Sender.nulFree_of_not_mem {sender : String} (h : Char.ofNat 0 ∉ sender.toList) :
    Sender.NulFree sender := fun _ hclaimed hmem => h (subset_of_parse? hclaimed hmem)

/-- **The emails of an event are without zero characters**, and it is no direct call that makes
an address. -/
def Event.NulFree : Event → Prop
  | .hear _ sender => Sender.NulFree sender
  | .submit sender _ => Sender.NulFree sender
  | .getOrCreate email _ => Char.ofNat 0 ∉ email.toList
  | .find email => Char.ofNat 0 ∉ email.toList
  | .call (.createAddress _ _) => False
  | _ => True

theorem Submission.plain_of_sighting? {sender : String} (h : Sender.NulFree sender)
    {d : Delivery} {x : Sender} (hx : sighting? sender d = some x) : PlainEmail x.email := by
  rw [sighting?] at hx
  split at hx
  · next claimed envelope hreading =>
    obtain rfl := Option.some.inj hx
    exact plainEmail_normalizeEmail (h claimed (reading_eq_ok_iff.mp hreading).1)
  · exact absurd hx (by simp)

namespace Event

variable {past es : List Event} {e : Event}

/-- A sender from which data are awaited has been heard. -/
theorem mem_of_awaited? {n : Nat} {sender : String} (h : awaited? n past = some sender) :
    .hear n sender ∈ past := by
  rw [awaited?] at h
  split at h
  · exact absurd h (by simp)
  · obtain ⟨e, he, heard⟩ := List.mem_filterMap.mp (List.mem_of_getLast? h)
    cases e with
    | hear i sender' =>
      rw [heard?] at heard
      split at heard
      · next hi => rwa [← hi, ← Option.some.inj heard]
      · exact absurd heard (by simp)
    | _ => exact absurd heard (by simp [heard?])

/-- Events without zero characters sight plain emails only. -/
theorem plain_of_sighting? (hpast : ∀ y ∈ past, y.NulFree) (he : e.NulFree) {x : Sender}
    (hx : e.sighting? past = some x) : PlainEmail x.email := by
  cases e with
  | receive n d =>
    obtain ⟨sender, hsender, hx⟩ := Option.bind_eq_some_iff.mp hx
    exact Submission.plain_of_sighting? (hpast _ (mem_of_awaited? hsender)) hx
  | submit sender d => exact Submission.plain_of_sighting? he hx
  | getOrCreate email name =>
    obtain rfl := Option.some.inj hx
    exact plainEmail_normalizeEmail he
  | _ => exact absurd hx (by simp [sighting?])

theorem plain_sightings (hes : ∀ e ∈ es, e.NulFree) : ∀ x ∈ sightings es, PlainEmail x.email := by
  induction es using List.reverseRecOn with
  | nil => simp [sightings, sightingsFrom]
  | append_singleton es e ih =>
    have hpast : ∀ y ∈ es, y.NulFree := fun y hy => hes y (List.mem_append_left _ hy)
    intro x hx
    rw [sightings_concat] at hx
    rcases List.mem_append.mp hx with hx | hx
    · exact ih hpast x hx
    · exact plain_of_sighting? hpast (hes e (by simp)) (Option.mem_toList.mp hx)

/-- So the records of the run are in normal form. -/
theorem normal_records (hes : ∀ e ∈ es, e.NulFree) :
    ∀ a ∈ Registry.records (sightings es), normalizeEmail a.email = a.email := by
  intro a ha
  have hmem := Registry.mem_emails_records.mp (List.mem_map_of_mem (f := Address.email) ha)
  obtain ⟨x, hx, heq⟩ := List.mem_map.mp hmem
  exact heq ▸ (plain_sightings hes x hx).normal

end Event

/-! ### What a session awaits -/

/-- The sender from which a session awaits data. -/
def Session.awaited? : Session → Option String
  | .receivingData sender => some sender
  | _ => none

/-- **A session agrees with what has happened to it.** -/
structure Session.Follows (past : List Event) (n : Nat) (s : Session) : Prop where
  finished : s.isFinished = past.any (Event.receives n)
  awaited : s.awaited? = Event.awaited? n past

namespace Session.Follows

variable {past : List Event} {n : Nat} {s : Session} {e : Event}

/-- What happens to others is nothing to a session. -/
theorem other (h : s.Follows past n) (hr : e.receives n = false) (hh : e.heard? n = none) :
    s.Follows (past ++ [e]) n where
  finished := by rw [h.finished]; simp [hr]
  awaited := by rw [h.awaited, Event.awaited?, Event.awaited?]; simp [hr, hh]

/-- A session hears a sender, unless it is finished. -/
theorem hear {σ : Type} (h : s.Follows past n) (sender : String) (b : Server σ) (t : σ) :
    ((s.hear sender).eval b t).1.Follows (past ++ [.hear n sender]) n := by
  have hany : (past ++ [Event.hear n sender]).any (Event.receives n) =
      past.any (Event.receives n) := by simp [Event.receives]
  rw [Session.hear]
  split
  · next hs =>
    have hpast := h.finished.symm.trans hs
    refine ⟨by rw [hany]; exact h.finished, ?_⟩
    change s.awaited? = _
    rw [h.awaited, Event.awaited?, Event.awaited?, hany, if_pos hpast, if_pos hpast]
  · next hs =>
    have hpast : past.any (Event.receives n) = false := h.finished.symm.trans (by simpa using hs)
    refine ⟨by rw [hany, hpast]; rfl, ?_⟩
    change some sender = _
    rw [Event.awaited?, hany, hpast, List.filterMap_append]
    simp [Event.heard?]

/-- A session that has received data is finished. -/
theorem receive {σ : Type} (s : Session) (past : List Event) (n : Nat) (d : Delivery)
    (b : Server σ) (t : σ) :
    ((s.receive d).eval b t).1.2.Follows (past ++ [.receive n d]) n := by
  have hfinished : ∀ s' : Session, s'.isFinished → s'.Follows (past ++ [.receive n d]) n := by
    intro s' hs'
    refine ⟨by rw [hs']; simp [Event.receives], ?_⟩
    cases s' with
    | resolved id => simp [Event.awaited?, Event.receives, Session.awaited?]
    | rejected => simp [Event.awaited?, Event.receives, Session.awaited?]
    | _ => exact absurd hs' (by simp [isFinished])
  refine hfinished _ ?_
  cases s with
  | receivingSender => rfl
  | receivingData sender =>
    rw [eval_receive]
    rcases ((Submission.accept sender d).eval b t).1 with _ | _ <;> rfl
  | resolved id => rfl
  | rejected => rfl

end Session.Follows

/-! ### What is stored -/

section Ledger

variable {k : Medium} {l : Ledger}

/-- **A submission leaves the records that it sights.** -/
theorem Submission.addresses_accept (hs : k.rules.Sound l)
    (hl : ∀ a ∈ l.addresses, normalizeEmail a.email = a.email) {sender : String}
    (h : Sender.NulFree sender) (d : Delivery) :
    ((accept sender d).eval k.rules.server l).2.addresses =
      (sighting? sender d).toList.foldl Registry.sight l.addresses := by
  rw [sighting?]
  rcases hreading : reading sender d with e | ⟨claimed, envelope⟩
  · rw [accept_of_reading_error hreading]
    rfl
  · have hplain : PlainEmail (normalizeEmail claimed.email) :=
      plainEmail_normalizeEmail (h claimed (reading_eq_ok_iff.mp hreading).1)
    have hregister := Registry.addresses_register (k := k) hl hplain claimed.name
    rw [eval_accept hs hreading]
    split <;> exact hregister

/-- Showing a message changes nothing. -/
theorem Mailbox.eval_detail_snd {r : Rules} (h : r.Sound l) (id : String) :
    ((detail id).eval r.server l).2 = l := by
  rcases hm : l.message? id with _ | m
  · rw [eval_detail_of_none r l hm]
  · obtain ⟨a, ha⟩ := Option.isSome_iff_exists.mp (h.known m (Ledger.mem_of_message? hm))
    rw [eval_detail_of_some r l hm ha]

/-- **An event leaves the records that it sights.** -/
theorem Event.addresses_eval (hs : k.rules.Sound l)
    (hl : ∀ a ∈ l.addresses, normalizeEmail a.email = a.email)
    {past : List Event} (hpast : ∀ y ∈ past, y.NulFree) {e : Event} (he : e.NulFree)
    {ss : Sessions} (hss : ∀ n, (ss n).Follows past n) :
    ((e.program ss).eval k.rules.server l).2.addresses =
      (e.sighting? past).toList.foldl Registry.sight l.addresses := by
  cases e with
  | hear n sender =>
    simp only [program, Program.eval_bind, Program.eval_pure]
    rw [Session.hear]
    split <;> rfl
  | receive n d =>
    simp only [program, Program.eval_bind, Program.eval_pure, sighting?]
    rw [← (hss n).awaited]
    cases hn : ss n with
    | receivingData sender =>
      have hsender : awaited? n past = some sender := by
        rw [← (hss n).awaited, hn]
        rfl
      rw [Session.eval_receive]
      exact Submission.addresses_accept hs hl (hpast _ (mem_of_awaited? hsender)) d
    | _ => rfl
  | submit sender d =>
    simp only [program, Program.eval_bind, Program.eval_pure, Submission.eval_submit]
    exact Submission.addresses_accept hs hl he d
  | getOrCreate email name =>
    simp only [program, Program.eval_bind, Program.eval_pure, Action.eval_run,
      Registry.eval_getOrCreate]
    exact Registry.addresses_register hl (plainEmail_normalizeEmail he) name
  | remove ids =>
    simp only [program, Program.eval_bind, Program.eval_pure, Action.eval_run,
      Mailbox.eval_remove]
    rfl
  | detail id =>
    simp only [program, Program.eval_bind, Program.eval_pure, Action.eval_run]
    rw [Mailbox.eval_detail_snd hs]
    rfl
  | call c =>
    obtain ⟨-, heq⟩ | ⟨-, email, name, rfl, -⟩ := k.rules.addresses_step l c
    · exact heq
    · exact he.elim
  | _ => rfl

end Ledger

/-! ### A whole run -/

/-- What a session has come to after an event, on any store. -/
theorem Event.follows_eval {σ : Type} (b : Server σ) (t : σ) {past : List Event} {ss : Sessions}
    (hss : ∀ n, (ss n).Follows past n) (e : Event) :
    ∀ n, (((e.program ss).eval b t).1.2 n).Follows (past ++ [e]) n := by
  intro n
  cases e with
  | hear i sender =>
    simp only [program, Program.eval_bind, Program.eval_pure]
    by_cases hi : n = i
    · subst hi
      rw [Function.update_self]
      exact (hss n).hear sender b t
    · rw [Function.update_of_ne hi]
      exact (hss n).other rfl (if_neg (Ne.symm hi))
  | receive i d =>
    simp only [program, Program.eval_bind, Program.eval_pure]
    by_cases hi : n = i
    · subst hi
      rw [Function.update_self]
      exact .receive (ss n) past n d b t
    · rw [Function.update_of_ne hi]
      exact (hss n).other (decide_eq_false (Ne.symm hi)) rfl
  | _ =>
    simp only [program, Program.eval_bind, Program.eval_pure]
    exact (hss n).other rfl rfl

namespace Service

variable {k : Medium}

/-- A message that is stored directly leaves the addresses alone, at every instant. -/
theorem addresses_insert {s : Service k.State} (hs : k.Valid s.store) (m : NewMessage)
    (now : Instant) :
    k.Valid (step (k.backend.stamping now) (.call (.insert m)) s).2.store ∧
      (k.ledger (step (k.backend.stamping now) (.call (.insert m)) s).2.store).addresses =
        (k.ledger s.store).addresses := by
  obtain ⟨hvalid, hledger⟩ := (k.refines.stamping now).state (.insert m) s.store _ ⟨hs, rfl⟩
  refine ⟨hvalid, (congrArg Ledger.addresses hledger).trans ?_⟩
  obtain ⟨-, heq⟩ | ⟨-, email, name, hcall, -⟩ :=
    k.rules.addresses_step (k.ledger s.store) (.insert { m with receivedAt := now })
  · exact heq
  · exact absurd hcall (by simp)

/-- **A service holds the records of what has been sighted.** -/
structure Follows (k : Medium) (past : List Event) (s : Service k.State) : Prop where
  valid : k.Valid s.store
  records : (k.ledger s.store).addresses = Registry.records (Event.sightings past)
  sessions : ∀ n, (s.sessions n).Follows past n

/-- It goes on to do so with every event. -/
theorem Follows.step {past : List Event} {s : Service k.State} (h : Follows k past s)
    (hpast : ∀ y ∈ past, y.NulFree) {e : Event} (he : e.NulFree) (now : Instant) :
    Follows k (past ++ [e]) (Service.step (k.backend.stamping now) e s).2 := by
  have hsessions := Event.follows_eval (k.backend.stamping now) s.store h.sessions e
  by_cases hinsert : ∃ m, e = .call (.insert m)
  · obtain ⟨m, rfl⟩ := hinsert
    obtain ⟨hvalid, haddresses⟩ := addresses_insert h.valid m now
    refine ⟨hvalid, ?_, hsessions⟩
    rw [haddresses, h.records, Event.sightings_concat]
    exact congrArg Registry.records (List.append_nil _).symm
  · obtain ⟨-, hvalid, hledger⟩ := step_eq h.valid (fun m hm => hinsert ⟨m, hm⟩) now
    refine ⟨hvalid, ?_, hsessions⟩
    have hnormal : ∀ a ∈ (k.ledger s.store).addresses, normalizeEmail a.email = a.email := by
      rw [h.records]
      exact Event.normal_records hpast
    have hstamped : (e.stamped now).NulFree ∧
        (e.stamped now).sighting? past = e.sighting? past := by
      cases e <;> exact ⟨he, rfl⟩
    rw [hledger, Event.addresses_eval h.valid.sound hnormal hpast hstamped.1 h.sessions,
      hstamped.2, h.records, Event.sightings_concat, Registry.records_append]

/-- **A service holds the records of the run**, at every point of it. -/
theorem follows_serve (k : Medium) {es : List (Instant × Event)} (hes : ∀ x ∈ es, x.2.NulFree) :
    Follows k (es.map Prod.snd) (k.serve es).2 := by
  induction es using List.reverseRecOn with
  | nil =>
    refine ⟨k.valid_empty, ?_, fun n => ⟨rfl, rfl⟩⟩
    change (k.ledger k.empty).addresses = _
    rw [k.ledger_empty]
    rfl
  | append_singleton es x ih =>
    obtain ⟨now, e⟩ := x
    have hes' : ∀ x ∈ es, x.2.NulFree := fun x hx => hes x (List.mem_append_left _ hx)
    rw [serve_concat, List.map_append]
    exact (ih hes').step (List.forall_mem_map.mpr hes') (hes (now, e) (by simp)) now

/-- What is found under an email is the record of its sightings. -/
theorem Follows.reply_find {past : List Event} {s : Service k.State} (h : Follows k past s)
    (hpast : ∀ y ∈ past, y.NulFree) {email : String} (hemail : Char.ofNat 0 ∉ email.toList)
    (now : Instant) :
    (Service.step (k.backend.stamping now) (.find email) s).1 =
      .found (.ok ((Registry.records (Event.sightings past)).find?
        fun a => a.email = normalizeEmail email)) := by
  rw [← h.records, ← k.addressByEmail?_eq (h.records ▸ Event.normal_records hpast)
    (plainEmail_normalizeEmail hemail)]
  exact (step_eq h.valid (by simp) now).1

/-- So is what the registry gives, unless the email is new. -/
theorem Follows.reply_getOrCreate {past : List Event} {s : Service k.State}
    (h : Follows k past s) (hpast : ∀ y ∈ past, y.NulFree) {email : String}
    (hemail : Char.ofNat 0 ∉ email.toList) (name : Option String) (now : Instant) :
    (Service.step (k.backend.stamping now) (.getOrCreate email name) s).1 =
      .address (.ok (((Registry.records (Event.sightings past)).find?
        fun a => a.email = normalizeEmail email).getD
          ⟨Registry.countEmails (Event.sightings past) + 1, normalizeEmail email, name⟩)) := by
  have heval := (step_eq h.valid (e := .getOrCreate email name) (by simp) now).1
  simp only [Event.stamped, Event.program, Program.eval_bind, Program.eval_pure,
    Action.eval_run, Registry.eval_getOrCreate, Rules.resolve, Ledger.newAddress] at heval
  rw [heval, k.addressByEmail?_eq (h.records ▸ Event.normal_records hpast)
    (plainEmail_normalizeEmail hemail), h.records, Registry.length_records]

end Service

namespace Submission

variable {σ : Type} (b : Server σ) (s : σ)

/-- A whole submission makes the calls that its data make. -/
theorem trace_submit (sender : String) (d : Delivery) :
    (submit sender d).trace b s = (accept sender d).run.trace b s := by
  have hrecord : ∀ (r : LogRecord) (t : σ),
      (Program.record r : Client Unit).trace b t = [] := fun _ _ => rfl
  have hreceive : ((Session.receivingData sender).receive d).trace b s =
      (accept sender d).run.trace b s := by
    rw [Session.receive, Program.trace_bind, Program.trace_bind, hrecord]
    rcases ((accept sender d).run.eval b s).1 with _ | _ <;> exact List.append_nil _
  have hhear : (Session.receivingSender.hear sender).eval b s = (.receivingData sender, s) := rfl
  have hhear' : (Session.receivingSender.hear sender).trace b s = [] := rfl
  rw [submit, Program.trace_bind, hhear, hhear', Program.trace_bind, hreceive, List.nil_append,
    Program.trace_bind, Session.finish, hrecord]
  exact List.append_nil _

/-- Only one email is looked up. -/
def Looks (email : String) : Call → Prop
  | .addressByEmail x => x = email
  | _ => True

theorem permits_looks (email : String) : Store.Permits (Looks email) where
  address _ := trivial
  message _ := trivial
  raw _ := trivial
  delete _ := trivial
  previews := trivial
  insert _ _ _ _ _ := trivial

/-- **A submission looks up the email that it claims, once it has been read**, and no other. -/
theorem looks_iff (sender : String) (d : Delivery) (email : String) :
    (∃ x ∈ (accept sender d).run.trace b s, x.1 = .addressByEmail email) ↔
      ∃ claimed envelope, reading sender d = .ok (claimed, envelope) ∧
        email = normalizeEmail claimed.email := by
  rcases hreading : reading sender d with e | ⟨claimed, envelope⟩
  · rw [accept_of_reading_error hreading]
    constructor
    · rintro ⟨x, hx, -⟩
      exact absurd hx List.not_mem_nil
    · rintro ⟨claimed, envelope, h, -⟩
      exact absurd h (by simp)
  · have hsender := (reading_eq_ok_iff.mp hreading).1
    have hadmits : Store.AdmitsSender (Looks (normalizeEmail claimed.email)) sender := by
      intro c hc
      obtain rfl : claimed = c := Option.some.inj (hsender.symm.trans hc)
      exact ⟨rfl, trivial⟩
    have halike := alike_accept (permits_looks _) hadmits d
    constructor
    · rintro ⟨x, hx, heq⟩
      have hlooks := halike.forall_mem_trace b s x hx
      rw [heq] at hlooks
      exact ⟨claimed, envelope, rfl, hlooks⟩
    · rintro ⟨claimed', envelope', h, rfl⟩
      obtain ⟨rfl, rfl⟩ := Prod.mk.inj (Except.ok.inj h)
      rw [accept_of_reading_ok hreading]
      exact ⟨_, List.mem_cons_self, rfl⟩

end Submission

namespace Service

/-- **The first sighting of a sender fixes its record**, at every point of a run on an empty
store of either kind. An email that has not been sighted is not found, and gets the next
number when it is. One that has been is found, whatever name is claimed for it now, with the
name that was claimed at the first sighting and the number that was next then; and the number
leads to the same record. An email is sighted by the registry, and by a submission whose
sender is one, whose data have come to their end and whose envelope can be read: it is then
that the store is asked for the normal form of the email. -/
theorem first_sighting (k : Medium) {es : List (Instant × Event)} (hes : ∀ x ∈ es, x.2.NulFree)
    (now : Instant) {email : String} (hemail : Char.ofNat 0 ∉ email.toList) :
    let seen := Event.sightings (es.map Prod.snd)
    let s := (k.serve es).2
    let reply := fun e => (step (k.backend.stamping now) e s).1
    ((normalizeEmail email ∉ seen.map Sender.email ∧ reply (.find email) = .found (.ok none) ∧
        ∀ name, reply (.getOrCreate email name) =
          .address (.ok ⟨Registry.countEmails seen + 1, normalizeEmail email, name⟩)) ∨
      ∃ before x after, seen = before ++ x :: after ∧ x.email = normalizeEmail email ∧
        x.email ∉ before.map Sender.email ∧
        ∃ a, a = ⟨Registry.countEmails before + 1, normalizeEmail email, x.name⟩ ∧
          reply (.find email) = .found (.ok (some a)) ∧
          (∀ name, reply (.getOrCreate email name) = .address (.ok a)) ∧
          k.ask (.address a.id) s.store = .ok (some a)) ∧
    ∀ sender d asked,
      (∃ x ∈ (Submission.submit sender d).trace (k.backend.stamping now) s.store,
        x.1 = .addressByEmail asked) ↔
      ∃ claimed envelope, Sender.parse? sender = some claimed ∧ d.failure = none ∧
        Envelope.parse d.octets = .ok envelope ∧ asked = normalizeEmail claimed.email := by
  intro seen s reply
  have hfollows := follows_serve k hes
  have hpast : ∀ y ∈ es.map Prod.snd, y.NulFree := List.forall_mem_map.mpr hes
  have hfind := hfollows.reply_find hpast hemail now
  have hget := fun name => hfollows.reply_getOrCreate hpast hemail name now
  refine ⟨?_, fun sender d asked => ?_⟩
  · by_cases hseen : normalizeEmail email ∈ (Event.sightings (es.map Prod.snd)).map Sender.email
    · obtain ⟨before, x, after, hsplit, hx, hfirst⟩ := Registry.exists_first hseen
      have hrecord := Registry.find?_records after hfirst
      rw [← hsplit, hx] at hrecord
      simp only [hrecord] at hfind hget
      refine .inr ⟨before, x, after, hsplit, hx, hfirst, _, rfl, hfind, hget, ?_⟩
      have hmem := List.mem_of_find?_eq_some hrecord
      rw [← hfollows.records] at hmem
      exact (hfollows.valid.ask_eq _).trans
        (congrArg Except.ok (hfollows.valid.sound.address?_of_mem hmem))
    · have hrecord := Registry.find?_records_of_not_mem hseen
      simp only [hrecord] at hfind hget
      exact .inl ⟨hseen, hfind, hget⟩
  · rw [Submission.trace_submit, Submission.looks_iff]
    simp only [Submission.reading_eq_ok_iff, and_assoc]

/-- A submission that is turned away as a resubmission sights its sender, and one without an
at sign sights nobody. -/
theorem first_sighting_resubmission :
    let d : Delivery := ⟨"To: c\n\nd".toUTF8.toList, none, 0⟩
    let es := [(1, Event.submit "nobody" d), (2, .submit "Ann <ANN@b>" d),
      (1, .getOrCreate " ann@B" (some "Other")), (3, .hear 0 "c@d"), (3, .receive 0 d)]
    let s := (Medium.database.serve es).2
    let reply := fun e => (step (Medium.database.backend.stamping 4) e s).1
    Event.sightings (es.map Prod.snd) =
        [⟨some "Ann", "ann@b"⟩, ⟨some "Other", "ann@b"⟩, ⟨none, "c@d"⟩] ∧
      ∃ a, reply (.find " C@D ") = .found (.ok (some a)) ∧
        (∀ name, reply (.getOrCreate " C@D " name) = .address (.ok a)) ∧
        Medium.database.ask (.address a.id) s.store = .ok (some a) := by
  intro d es s reply
  have hes : ∀ x ∈ es, x.2.NulFree := by
    simp only [es, List.forall_mem_cons, List.not_mem_nil, false_implies, implies_true, and_true]
    exact ⟨Sender.nulFree_of_not_mem (by decide), Sender.nulFree_of_not_mem (by decide),
      (by decide : Char.ofNat 0 ∉ " ann@B".toList), Sender.nulFree_of_not_mem (by decide), trivial⟩
  have hseen : normalizeEmail " C@D " ∈ (Event.sightings (es.map Prod.snd)).map Sender.email := by
    decide +kernel
  refine ⟨by decide +kernel, ?_⟩
  have hemail : Char.ofNat 0 ∉ " C@D ".toList := by decide
  obtain ⟨hnot, -⟩ | ⟨before, x, after, -, -, -, a, -, ha⟩ :=
    (first_sighting .database hes 4 hemail).1
  · exact absurd hseen hnot
  · exact ⟨a, ha⟩

end Service

end Maildrop
