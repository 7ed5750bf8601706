import Maildrop.Proofs.Service.Stamping
import Maildrop.Proofs.Store.Damage

/-!
# Damage stays where it is

The payload of one message is overwritten. Who does not *touch* the message
(`Maildrop.Event.Touches`), that is, neither reads what the payload holds nor submits octets
that have its id, cannot tell: two services whose databases differ at most in the payload
give the same replies, whatever happens to them, and their databases go on to differ at most
in the payload (`Maildrop.Service.run_sameBut`).

Who does touch it finds out what has happened, as long as the payload cannot be unpacked
(`Maildrop.Service.Copes`): every read fails, and so does a submission of the octets that
were there, by no fault of the submitter. Everything else about the message works, and once
it has been deleted, the same submission puts every read of it right. This needs nothing of
the rest of the database.

The main statement is `Maildrop.Service.damage_contained`.
-/

namespace Maildrop

open Store (Action Call Client Database Failure Medium MessageRow Server Tables)

/-- **The event touches the payload of a message**: it reads the payload, or submits octets
that have the id of the message. -/
def Event.Touches (id : String) : Event → Prop
  | .content x | .headers x | .body x | .detail x => x = id
  | .call c => c.reads id = true
  | .receive _ d | .submit _ d => MessageId.ofContent d.octets = id
  | _ => False

/-! ### Events that do not touch a payload -/

section Hides

open Store.Tables

variable {id : String}

theorem Session.hides_hear (s : Session) (sender : String) : Hides id Eq (s.hear sender) := by
  rw [hear]
  split
  · exact (hides_record _).map fun _ _ _ => rfl
  · exact (hides_record _).map fun _ _ _ => rfl

theorem Session.hides_receive (s : Session) (d : Delivery) :
    Hides id (fun x y => x.2 = y.2 ∧ (MessageId.ofContent d.octets ≠ id → x.1 = y.1))
      (s.receive d) := by
  cases s with
  | receivingSender => exact (hides_record _).map fun _ _ _ => ⟨rfl, fun _ => rfl⟩
  | receivingData sender =>
    intro t
    have h : Hides id _ (Submission.accept sender d).run := hides_accept sender d
    rw [eval_receive, eval_receive]
    exact h t
  | resolved x => exact hides_pure ⟨rfl, fun _ => rfl⟩
  | rejected => exact hides_pure ⟨rfl, fun _ => rfl⟩

theorem Submission.hides_submit (sender : String) (d : Delivery) :
    Hides id (fun x y => MessageId.ofContent d.octets ≠ id → x = y) (submit sender d) := by
  intro t
  have h : Hides id _ (accept sender d).run := hides_accept sender d
  rw [eval_submit, eval_submit]
  exact ⟨(h t).1.2, (h t).2⟩

/-- **An event hides a payload** from all replies but those to events that touch it, and from
all sessions. -/
theorem Event.hides (e : Event) (ss : Sessions) :
    Hides id (fun x y => x.2 = y.2 ∧ (¬e.Touches id → x.1 = y.1)) (e.program ss) := by
  cases e with
  | hear n sender =>
    refine ((ss n).hides_hear sender).map ?_
    rintro s _ rfl
    exact ⟨rfl, fun _ => rfl⟩
  | receive n d =>
    refine ((ss n).hides_receive d).map ?_
    rintro ⟨x, s⟩ ⟨y, _⟩ ⟨rfl, h⟩
    refine ⟨rfl, fun hd => ?_⟩
    obtain rfl : x = y := h hd
    rfl
  | finish n => exact (hides_record _).map fun _ _ _ => ⟨rfl, fun _ => rfl⟩
  | submit sender d =>
    exact (Submission.hides_submit sender d).map fun _ _ h =>
      ⟨rfl, fun hd => congrArg Reply.submitted (h hd)⟩
  | getOrCreate email name =>
    exact (hides_getOrCreate email name).map fun _ _ h => ⟨rfl, fun _ => congrArg Reply.address h⟩
  | find email =>
    exact (hides_handed _ _).map fun _ _ h => ⟨rfl, fun _ => congrArg Reply.found (h rfl)⟩
  | remove ids =>
    exact (hides_remove ids).map fun _ _ h => ⟨rfl, fun _ => congrArg Reply.removed h⟩
  | entries => exact hides_entries.map fun _ _ h => ⟨rfl, fun _ => congrArg Reply.entries h⟩
  | summaries => exact hides_summaries.map fun _ _ h => ⟨rfl, fun _ => congrArg Reply.summaries h⟩
  | content x =>
    exact (hides_content x).map fun _ _ h => ⟨rfl, fun hx => congrArg Reply.octets (h hx)⟩
  | headers x =>
    exact (hides_half x _).map fun _ _ h => ⟨rfl, fun hx => congrArg Reply.octets (h hx)⟩
  | body x =>
    exact (hides_half x _).map fun _ _ h => ⟨rfl, fun hx => congrArg Reply.octets (h hx)⟩
  | detail x =>
    exact (hides_detail x).map fun _ _ h => ⟨rfl, fun hx => congrArg Reply.detail (h hx)⟩
  | call c =>
    exact (hides_ask c).map fun _ _ h =>
      ⟨rfl, fun hc => congrArg (Reply.called c) (h (Bool.eq_false_iff.mpr hc))⟩

theorem Event.touches_stamped (now : Instant) (e : Event) :
    (e.stamped now).Touches id = e.Touches id := by
  cases e <;> rfl

/-- At an instant an event does what some program does that hides the payload as well. -/
theorem Event.exists_hides (id : String) (now : Instant) (e : Event) (ss : Sessions) :
    ∃ p : Client (Reply × Sessions),
      Hides id (fun x y => x.2 = y.2 ∧ (¬e.Touches id → x.1 = y.1)) p ∧
      ∀ t, (e.program ss).eval (server.stamping now) t = p.eval server t := by
  by_cases hc : ∃ m, e = .call (.insert m)
  · obtain ⟨m, rfl⟩ := hc
    refine ⟨do
      let r ← Program.ask (.insert { m with receivedAt := now })
      pure (.called (.insert m) r, ss), ?_, fun t => rfl⟩
    exact (hides_ask (.insert { m with receivedAt := now })).map fun _ _ h =>
      ⟨rfl, fun _ => congrArg (Reply.called (.insert m)) (h rfl)⟩
  · refine ⟨(e.stamped now).program ss, ?_, fun t => ?_⟩
    · rw [← e.touches_stamped now]
      exact (e.stamped now).hides ss
    · exact Event.eval_stamping server now (fun m hm => hc ⟨m, hm⟩) ss t

end Hides

namespace Service

/-! ### Services that differ in a payload -/

/-- On a database with tables an event does what it does to the tables. -/
theorem step_tables (now : Instant) (e : Event) (n : Nat) (t : Tables) (ss : Sessions) :
    step (Database.backend.stamping now) e ⟨⟨n, some t⟩, ss⟩ =
      (((e.program ss).eval (Tables.server.stamping now) t).1.1,
        ⟨⟨n, some ((e.program ss).eval (Tables.server.stamping now) t).2⟩,
          ((e.program ss).eval (Tables.server.stamping now) t).1.2⟩) := by
  obtain ⟨hvalue, hstate⟩ :=
    ((Database.refines_tables n).stamping now).eval (e.program ss) (s := ⟨n, some t⟩) (t := t) rfl
  rw [step]
  simp only [hvalue, hstate]

/-- **One event keeps the difference where it is**, and its reply shows nothing of it, unless it
touches the payload. -/
theorem step_sameBut {id : String} (now : Instant) (e : Event) {s s' : Service Database}
    (h : Database.SameBut id s.store s'.store) (hss : s.sessions = s'.sessions) :
    Database.SameBut id (step (Database.backend.stamping now) e s).2.store
        (step (Database.backend.stamping now) e s').2.store ∧
      (step (Database.backend.stamping now) e s).2.sessions =
        (step (Database.backend.stamping now) e s').2.sessions ∧
      (¬e.Touches id → (step (Database.backend.stamping now) e s).1 =
        (step (Database.backend.stamping now) e s').1) := by
  obtain ⟨d, ss⟩ := s
  obtain ⟨d', ss'⟩ := s'
  obtain rfl : ss = ss' := hss
  obtain ⟨rfl, -⟩ | ⟨n, t, t', rfl, rfl, ht⟩ := h.cases
  · exact ⟨rfl, rfl, fun _ => rfl⟩
  · -- both tables are compared with what is left of them behind the veil
    obtain ⟨p, hp, heval⟩ := Event.exists_hides id now e ss
    obtain ⟨⟨hss, hreply⟩, hveil⟩ := hp t
    obtain ⟨⟨hss', hreply'⟩, hveil'⟩ := hp t'
    simp only [step_tables, heval]
    rw [ht] at hss hreply hveil
    exact ⟨Database.sameBut_of_veil n (hveil.symm.trans hveil'), hss.symm.trans hss',
      fun he => (hreply he).symm.trans (hreply' he)⟩

/-- **Whatever happens, the difference stays where it is**, and only replies to events that
touch the payload can show it. -/
theorem run_sameBut {id : String} (es : List (Instant × Event)) {s s' : Service Database}
    (h : Database.SameBut id s.store s'.store) (hss : s.sessions = s'.sessions) :
    Database.SameBut id (run Database.backend.stamping es s).2.store
        (run Database.backend.stamping es s').2.store ∧
      (run Database.backend.stamping es s).2.sessions =
        (run Database.backend.stamping es s').2.sessions ∧
      ∀ (i : Nat) (x : Instant × Event), es[i]? = some x → ¬x.2.Touches id →
        (run Database.backend.stamping es s).1[i]? =
          (run Database.backend.stamping es s').1[i]? := by
  induction es generalizing s s' with
  | nil => exact ⟨h, hss, fun i x hx => absurd hx (by simp)⟩
  | cons y es ih =>
    obtain ⟨now, e⟩ := y
    obtain ⟨hstore, hsessions, hreply⟩ := step_sameBut now e h hss
    obtain ⟨hstore', hsessions', hreplies⟩ := ih hstore hsessions
    refine ⟨hstore', hsessions', fun i x hx hquiet => ?_⟩
    cases i with
    | zero =>
      obtain rfl : (now, e) = x := Option.some.inj hx
      exact congrArg some (hreply hquiet)
    | succ i => exact hreplies i x hx hquiet

/-! ### Reading a message -/

variable {id : String}

/-- **What the reads of a message give**: its octets or the halves of them, the message, and the
message with its sender. -/
structure Reads (id : String) (octets : Except Failure (Option Bytes))
    (message : Except Failure (Option Message)) (detail : Except Failure (Option Mailbox.Detail))
    (now : Instant) (s : Service Database) : Prop where
  raw : (step (Database.backend.stamping now) (.call (.raw id)) s).1 = .called (.raw id) octets
  message : (step (Database.backend.stamping now) (.call (.message id)) s).1 =
    .called (.message id) message
  content : (step (Database.backend.stamping now) (.content id) s).1 = .octets octets
  headers : (step (Database.backend.stamping now) (.headers id) s).1 =
    .octets (octets.map (Option.map fun raw => (Mailbox.split raw).1))
  body : (step (Database.backend.stamping now) (.body id) s).1 =
    .octets (octets.map (Option.map fun raw => (Mailbox.split raw).2))
  detail : (step (Database.backend.stamping now) (.detail id) s).1 = .detail detail

/-- An event that runs one program on tables replies with its value. -/
theorem step_of_program {now : Instant} {α : Type} {e : Event} (hc : ∀ m, e ≠ .call (.insert m))
    {p : Client α} {reply : α → Reply}
    (he : ∀ ss, (e.stamped now).program ss = p >>= fun a => pure (reply a, ss)) (n : Nat)
    (t : Tables) (ss : Sessions) :
    step (Database.backend.stamping now) e ⟨⟨n, some t⟩, ss⟩ =
      (reply (p.eval Tables.server t).1, ⟨⟨n, some (p.eval Tables.server t).2⟩, ss⟩) := by
  rw [step_tables, Event.eval_stamping Tables.server now hc, he, Program.eval_bind]
  rfl

theorem reads_tables (id : String) (now : Instant) (n : Nat) (t : Tables) (ss : Sessions) :
    Reads id (t.raw id) (t.message id) (t.detail id) now ⟨⟨n, some t⟩, ss⟩ where
  raw := by
    rw [step_of_program (by simp) (p := Program.ask (.raw id)) fun _ => rfl]
    rfl
  message := by
    rw [step_of_program (by simp) (p := Program.ask (.message id)) fun _ => rfl]
    rfl
  content := by
    rw [step_of_program (by simp) (p := (Mailbox.content id).run) fun _ => rfl, Action.eval_run,
      Tables.eval_content]
  headers := by
    rw [step_of_program (by simp) (p := (Mailbox.headers id).run) fun _ => rfl, Action.eval_run,
      Tables.eval_headers]
  body := by
    rw [step_of_program (by simp) (p := (Mailbox.body id).run) fun _ => rfl, Action.eval_run,
      Tables.eval_body]
  detail := by
    rw [step_of_program (by simp) (p := (Mailbox.detail id).run) fun _ => rfl, Action.eval_run,
      Tables.eval_detail]

/-! ### Services that have lost a payload -/

/-- The rows of messages; none without tables. -/
def rows (s : Service Database) : List MessageRow := (s.store.tables.map Tables.messages).getD []

/-- **The event deletes messages**, and is told that it has. -/
inductive Deletes : List String → Event → Reply → Prop where
  | call (id : String) : Deletes [id] (.call (.delete id)) (.called (.delete id) (.ok ()))
  | remove (ids : List String) : Deletes ids (.remove ids) (.removed (.ok ()))

/-- **A delivery is made**: by a submission of its own, or in a session that awaits data. -/
inductive Delivers (sender : String) (d : Delivery) (s : Service Database) :
    Event → (Except Submission.Error String → Reply) → Prop where
  | submit : Delivers sender d s (.submit sender d) .submitted
  | receive {n : Nat} (h : s.sessions n = .receivingData sender) :
    Delivers sender d s (.receive n d) fun r => .received r (Session.ofVerdict r)

/-- **What a service does about a message whose payload is lost.** -/
structure Copes (id : String) (s : Service Database) : Prop where
  /-- Every read fails: it gives no octets, and does not say that nothing is there. -/
  reads now : Reads id (.error (Tables.loss id)) (.error (Tables.loss id))
    (.error (Tables.loss id)) now s
  /-- A delivery of octets that have the id fails by a fault of the store, and no message
  comes or goes. -/
  delivery now : ∀ sender d x e reply, Submission.reading sender d = .ok x →
    MessageId.ofContent d.octets = id → Delivers sender d s e reply →
      ∃ f, (Submission.Error.storage f).fault = .server ∧
        (step (Database.backend.stamping now) e s).1 = reply (.error (.storage f)) ∧
        rows (step (Database.backend.stamping now) e s).2 = rows s
  has now : (step (Database.backend.stamping now) (.call (.has id)) s).1 =
    .called (.has id) (.ok true)
  count now : (step (Database.backend.stamping now) (.call .count) s).1 =
    .called .count (.ok (rows s).length)
  /-- Listings work, and show the message if its sender is there. -/
  listings now : ∃ ps,
    (step (Database.backend.stamping now) (.call .previews) s).1 = .called .previews (.ok ps) ∧
    (step (Database.backend.stamping now) .entries s).1 =
      .entries (.ok (ps.map fun p => ⟨p.id, p.size⟩)) ∧
    (step (Database.backend.stamping now) .summaries s).1 =
      .summaries (.ok (ps.map Mailbox.Summary.ofPreview)) ∧
    ∀ t r a, s.store.tables = some t → t.row? id = some r → t.address? r.senderId = some a →
      ∃ p ∈ ps, p.id = id ∧ p.sender = a ∧ p.size = r.size
  /-- The message can be deleted, and then a delivery of the octets puts everything right. -/
  deletion now now' : ∀ ids e reply, id ∈ ids → Deletes ids e reply →
    let r := step (Database.backend.stamping now) e s
    r.1 = reply ∧ rows r.2 = (rows s).filter (fun x => x.id ∉ ids) ∧
      ∀ sender d x e' reply', Submission.reading sender d = .ok x →
        MessageId.ofContent d.octets = id → Delivers sender d r.2 e' reply' →
          let r' := step (Database.backend.stamping now') e' r.2
          r'.1 = reply' (.ok id) ∧ ∀ later, ∃ m x,
            Reads id (.ok (some d.octets)) (.ok (some m)) (.ok (some x)) later r'.2 ∧
              m.id = id ∧ m.raw = d.octets ∧ x.message = m

variable {now : Instant} {n : Nat} {t : Tables} {ss : Sessions}

/-- A delivery does to tables what a submission does. -/
theorem step_delivers (now : Instant) {sender : String} {d : Delivery} {e : Event}
    {reply : Except Submission.Error String → Reply}
    (h : Delivers sender d ⟨⟨n, some t⟩, ss⟩ e reply) :
    ∃ ss', step (Database.backend.stamping now) e ⟨⟨n, some t⟩, ss⟩ =
      (reply ((Submission.accept sender (d.stamped now)).eval Tables.server t).1,
        ⟨⟨n, some ((Submission.accept sender (d.stamped now)).eval Tables.server t).2⟩, ss'⟩) := by
  cases h with
  | submit =>
    refine ⟨ss, ?_⟩
    rw [step_of_program (by simp) (p := Submission.submit sender (d.stamped now)) fun _ => rfl,
      Submission.eval_submit]
  | @receive k hk =>
    obtain hk : ss k = .receivingData sender := hk
    refine ⟨Function.update ss k
      (Session.ofVerdict ((Submission.accept sender (d.stamped now)).eval Tables.server t).1), ?_⟩
    rw [step_tables, Event.program, hk, Program.eval_bind, Session.eval_receive_stamping,
      Session.eval_receive]
    rfl

/-- Whichever way messages are deleted, their rows are gone afterwards. -/
theorem step_deletes {ids : List String} {e : Event} {reply : Reply} (h : Deletes ids e reply) :
    step (Database.backend.stamping now) e ⟨⟨n, some t⟩, ss⟩ =
      (reply, ⟨⟨n, some (t.without ids)⟩, ss⟩) := by
  cases h with
  | call id =>
    rw [step_of_program (by simp) (p := Program.ask (.delete id)) fun _ => rfl, ← t.delete_eq]
    rfl
  | remove ids =>
    rw [step_of_program (by simp) (p := (Mailbox.remove ids).run) fun _ => rfl, Action.eval_run,
      Tables.eval_remove]

/-- A delivery whose octets cannot be compared with those that were there fails. -/
theorem delivery_of_lost (h : t.Lost id) {sender : String} {d : Delivery} {x : Sender × Envelope}
    (hreading : Submission.reading sender d = .ok x) (hid : MessageId.ofContent d.octets = id) :
    ((Submission.accept sender d).eval Tables.server t).1 =
        .error (.storage ((Tables.loss id).within (.compareDuplicate id))) ∧
      ((Submission.accept sender d).eval Tables.server t).2.messages = t.messages := by
  obtain ⟨r, hr, hunpack⟩ := h.exists_unpack
  rw [Tables.eval_accept, hreading]
  dsimp only
  rw [hid, hr]
  dsimp only
  rw [Tables.clash, hunpack, Tables.id_of_row? hr]
  exact ⟨rfl, t.messages_register _ _⟩

/-- A delivery of octets whose id is free is stored, and can be read. -/
theorem delivery_of_free (h : t.row? id = none) {sender : String} {d : Delivery}
    {x : Sender × Envelope} (hreading : Submission.reading sender d = .ok x)
    (hid : MessageId.ofContent d.octets = id) :
    ((Submission.accept sender d).eval Tables.server t).1 = .ok id ∧
      ((Submission.accept sender d).eval Tables.server t).2.Holds id d.octets := by
  subst hid
  rw [Tables.eval_accept, hreading]
  dsimp only
  rw [h]
  exact ⟨rfl, Tables.holds_register_add h _ _⟩

/-- **A service copes with a payload that is lost.** -/
theorem copes (hlost : t.Lost id) : Copes id ⟨⟨n, some t⟩, ss⟩ where
  reads now := by
    have h := reads_tables id now n t ss
    rwa [hlost.raw_eq, hlost.message_eq, hlost.detail_eq] at h
  delivery now sender d x e reply hreading hid he := by
    obtain ⟨ss', hstep⟩ := step_delivers now he
    obtain ⟨hresult, hrows⟩ := delivery_of_lost (d := d.stamped now) hlost hreading hid
    rw [hstep, hresult]
    exact ⟨_, rfl, rfl, hrows⟩
  has now := by
    rw [step_of_program (by simp) (p := Program.ask (.has id)) fun _ => rfl]
    obtain ⟨r, hr, -⟩ := hlost
    change Reply.called (.has id) (.ok (t.row? id).isSome) = _
    rw [hr]
    rfl
  count now := by
    rw [step_of_program (by simp) (p := Program.ask .count) fun _ => rfl]
    rfl
  listings now := by
    refine ⟨t.previews, ?_, ?_, ?_, ?_⟩
    · rw [step_of_program (by simp) (p := Program.ask .previews) fun _ => rfl]
      rfl
    · rw [step_of_program (by simp) (p := Mailbox.entries.run) fun _ => rfl]
      rfl
    · rw [step_of_program (by simp) (p := Mailbox.summaries.run) fun _ => rfl]
      rfl
    · intro t' r a ht hr ha
      obtain rfl : t = t' := Option.some.inj ht
      refine ⟨⟨r.id, a, r.subjectPreview, r.bodyPreview, r.size, Tables.arrival r⟩, ?_,
        Tables.id_of_row? hr, rfl, rfl⟩
      refine List.mem_filterMap.mpr ⟨r, List.mem_mergeSort.mpr (Tables.mem_of_row? hr), ?_⟩
      rw [Tables.preview?, ha]
      rfl
  deletion now now' ids e reply hid he := by
    have hfree : (t.without ids).row? id = none := by
      rw [Tables.row?_eq_none]
      rintro r hr rfl
      exact absurd hid (of_decide_eq_true (List.mem_filter.mp hr).2)
    rw [step_deletes he]
    refine ⟨rfl, rfl, ?_⟩
    intro sender d x e' reply' hreading hid he'
    obtain ⟨ss', hstep'⟩ := step_delivers now' he'
    obtain ⟨hresult, hholds⟩ := delivery_of_free (d := d.stamped now') hfree hreading hid
    rw [hstep', hresult]
    refine ⟨rfl, fun later => ?_⟩
    obtain ⟨m, a, hm, hmid, hraw, ha⟩ := hholds.message_eq
    have hreads := reads_tables id later n
      ((Submission.accept sender (d.stamped now')).eval Tables.server (t.without ids)).2
      ss'
    rw [hholds.raw_eq, hm, Tables.detail_of_message hm ha] at hreads
    exact ⟨m, ⟨m, a⟩, hreads, hmid, hraw, rfl⟩

/-- **Damage to the payload of one message is contained.** Two services that differ at most in
the payload go on to do so, and reply alike to whatever does not touch it. If the payload cannot
be unpacked, then every read of the message fails, its octets cannot be submitted again for as
long as it is there, and all else about the message works; once it has been deleted, its octets
can be submitted again and read. -/
theorem damage_contained (id : String) :
    (∀ (es : List (Instant × Event)) (s s' : Service Database),
      Database.SameBut id s.store s'.store → s.sessions = s'.sessions →
        let r := run Database.backend.stamping es s
        let r' := run Database.backend.stamping es s'
        Database.SameBut id r.2.store r'.2.store ∧ r.2.sessions = r'.2.sessions ∧
          ∀ (i : Nat) (x : Instant × Event), es[i]? = some x → ¬x.2.Touches id →
            r.1[i]? = r'.1[i]?) ∧
    ∀ (s : Service Database) (t : Tables), s.store.tables = some t → t.Lost id → Copes id s := by
  refine ⟨fun es s s' h hss => run_sameBut es h hss, ?_⟩
  rintro ⟨⟨n, tables⟩, ss⟩ t ht hlost
  obtain rfl : tables = some t := ht
  exact copes hlost

/-- The only message of a service loses its payload: a summary shows it as before, it cannot be
submitted again, and it can be deleted and then submitted again. -/
theorem damage_contained_only_message :
    let d : Delivery := ⟨"To: c\n\nd".toUTF8.toList, none, 0⟩
    let id := MessageId.ofContent d.octets
    let t : Tables := ⟨[⟨1, "a@b", none⟩], 1, [⟨1, id, 1, "", "d", .packed d.octets, 8, some 0⟩]⟩
    let s : Service Database := ⟨⟨2, some t⟩, fun _ => .receivingSender⟩
    let s' : Service Database := ⟨⟨2, some (t.veil id)⟩, fun _ => .receivingSender⟩
    let deleted := (step (Database.backend.stamping 2) (.remove [id]) s').2
    Database.SameBut id s.store s'.store ∧ (t.veil id).Lost id ∧
      (step (Database.backend.stamping 1) .summaries s).1 =
        (step (Database.backend.stamping 1) .summaries s').1 ∧
      (∃ f, (step (Database.backend.stamping 1) (.submit "a@b" d) s').1 =
        .submitted (.error (.storage f))) ∧
      (step (Database.backend.stamping 3) (.submit "a@b" d) deleted).1 = .submitted (.ok id) := by
  intro d id t s s' deleted
  have hsame : Database.SameBut id s.store s'.store :=
    Database.sameBut_of_veil 2 (t.veil_veil id).symm
  have hlost : (t.veil id).Lost id := by
    refine ⟨MessageRow.veil id ⟨1, id, 1, "", "d", .packed d.octets, 8, some 0⟩, ?_, ?_⟩
    · rw [Tables.row?_veil]
      exact congrArg (Option.map _) (List.find?_cons_of_pos (by simp))
    · rw [MessageRow.veil, if_pos rfl]
      rfl
  obtain ⟨x, hreading⟩ : ∃ x, Submission.reading "a@b" d = .ok x := by
    have hok : (Submission.reading "a@b" d).isOk = true := by decide +kernel
    rcases hx : Submission.reading "a@b" d with e | x
    · rw [hx] at hok
      exact absurd hok (by simp [Except.isOk, Except.toBool])
    · exact ⟨x, rfl⟩
  have hcopes : Copes id s' := (damage_contained id).2 s' _ rfl hlost
  have halike := ((damage_contained id).1 [(1, .summaries)] s s' hsame rfl).2.2 0 _ rfl fun h => h
  obtain ⟨f, -, hf, -⟩ := hcopes.delivery 1 "a@b" d x _ _ hreading rfl .submit
  refine ⟨hsame, hlost, Option.some.inj halike, ⟨f, hf⟩, ?_⟩
  exact ((hcopes.deletion 2 3 [id] _ _ (by simp) (.remove [id])).2.2 "a@b" d x _ _ hreading rfl
    .submit).1

end Service

end Maildrop
