import Maildrop.Proofs.Service.Basic

/-!
# Every event acts alike

Every program that a service runs acts alike on answers that look alike
(`Maildrop.Event.alike_program`): the sessions, the registry and the mailbox look at no
stamp and at no failure before they make the next call. So the replies look alike too, and
the sessions are the same.

The calls that the programs make are of a kind `P` if the kind *permits* what every
service asks (`Maildrop.Store.Permits`) and *admits* the emails that the event brings
(`Maildrop.Event.Admitted`). A session keeps the sender that it has heard, so the kind has
to admit that as well (`Maildrop.Session.Admitted`).
-/

namespace Maildrop

open Store (Action Call Client Failure Server)

/-! ### The look of a reply -/

/-- The error without what is behind a failure of the store. -/
def Submission.Error.blank : Submission.Error → Submission.Error
  | .storage f => .storage f.blank
  | e => e

/-- The summary without the instant at which its message came. -/
def Mailbox.Summary.unstamped (x : Mailbox.Summary) : Mailbox.Summary := { x with receivedAt := 0 }

/-- The message and its sender without the instant at which the message came. -/
def Mailbox.Detail.unstamped (x : Mailbox.Detail) : Mailbox.Detail :=
  { x with message := x.message.unstamped }

/-- **How a reply looks**: without the instants at which messages came, and without what
is behind a failure of the store. -/
def Reply.look : Reply → Reply
  | .heard s => .heard s
  | .received r s => .received (Maildrop.look Submission.Error.blank id r) s
  | .finished => .finished
  | .submitted r => .submitted (Maildrop.look Submission.Error.blank id r)
  | .address r => .address (Maildrop.look Submission.Error.blank id r)
  | .found r => .found (Maildrop.look Failure.blank id r)
  | .removed r => .removed (Maildrop.look Failure.blank id r)
  | .entries r => .entries (Maildrop.look Failure.blank id r)
  | .summaries r =>
    .summaries (Maildrop.look Failure.blank (List.map Mailbox.Summary.unstamped) r)
  | .octets r => .octets (Maildrop.look Failure.blank id r)
  | .detail r => .detail (Maildrop.look Failure.blank (Option.map Mailbox.Detail.unstamped) r)
  | .called c r => .called c (c.look r)

/-! ### Kinds of calls -/

variable {P : Call → Prop}

/-- The kind admits registering an email. -/
def Store.Registers (P : Call → Prop) (email : String) (name : Option String) : Prop :=
  P (.addressByEmail (normalizeEmail email)) ∧ P (.createAddress (normalizeEmail email) name)

/-- The kind admits a submission from a sender: either its email can be registered, or it
is no sender at all. -/
def Store.AdmitsSender (P : Call → Prop) (sender : String) : Prop :=
  ∀ claimed, Sender.parse? sender = some claimed → Store.Registers P claimed.email claimed.name

/-- The sender that the session has heard is admitted. -/
def Session.Admitted (P : Call → Prop) : Session → Prop
  | .receivingData sender => Store.AdmitsSender P sender
  | _ => True

/-- **The emails of an event are admitted**, and the call if it is one. -/
def Event.Admitted (P : Call → Prop) : Event → Prop
  | .hear _ sender => Store.AdmitsSender P sender
  | .submit sender _ => Store.AdmitsSender P sender
  | .getOrCreate email name => Store.Registers P email name
  | .find email => P (.addressByEmail (normalizeEmail email))
  | .call c => P c
  | _ => True

/-- **The kind permits what every service asks**: everything that brings no email, and
storing messages that have been read. -/
structure Store.Permits (P : Call → Prop) : Prop where
  address : ∀ id, P (.address id)
  message : ∀ id, P (.message id)
  raw : ∀ id, P (.raw id)
  delete : ∀ id, P (.delete id)
  previews : P .previews
  insert : ∀ address envelope gist d, Envelope.parse d.octets = .ok envelope →
    P (.insert (Submission.newMessage address envelope gist d))

/-! ### The registry -/

namespace Registry

open Submission (Error)

theorem alike_find {email : String} (h : P (.addressByEmail (normalizeEmail email))) :
    Action.Alike P Failure.blank id (find email) (find email) :=
  Action.alike_ask h fun _ _ => rfl

theorem alike_reread {email : String} (h : P (.addressByEmail email)) :
    Action.Alike P Error.blank id (reread email) (reread email) := by
  refine (Action.alike_record _ _).bind fun _ _ _ => ?_
  refine (Action.alike_ask h fun _ _ => rfl).bind fun a b hab => ?_
  obtain rfl : a = b := hab
  cases a with
  | some a => exact Action.alike_pure rfl
  | none => exact (Action.alike_record _ _).bind fun _ _ _ => Action.alike_throw rfl

theorem alike_create {email : String} {name : Option String} (hlook : P (.addressByEmail email))
    (hcreate : P (.createAddress email name)) :
    Action.Alike P Error.blank id (create email name) (create email name) := by
  refine (Action.alike_ask hcreate fun _ _ => rfl).bind fun a b hab => ?_
  obtain rfl : a = b := hab
  cases a with
  | created a => exact (Action.alike_record _ _).bind fun _ _ _ => Action.alike_pure rfl
  | taken => exact alike_reread hlook

theorem alike_getOrCreate {email : String} {name : Option String}
    (h : Store.Registers P email name) :
    Action.Alike P Error.blank id (getOrCreate email name) (getOrCreate email name) := by
  refine (Action.alike_ask h.1 fun _ _ => rfl).bind fun a b hab => ?_
  obtain rfl : a = b := hab
  cases a with
  | some a => exact Action.alike_pure rfl
  | none => exact alike_create h.1 h.2

end Registry

/-! ### Submissions -/

namespace Submission

theorem alike_gistFor (a : Address) (e : Envelope) :
    Action.Alike P Error.blank id (gistFor a e) (gistFor a e) := by
  rw [gistFor]
  rcases e.gist with _ | gist
  · exact (Action.alike_record _ _).bind fun _ _ _ => Action.alike_pure rfl
  · exact Action.alike_pure rfl

theorem alike_duplicate {name : String} (h : P (.raw name)) (raw : Bytes) :
    Action.Alike P Error.blank id (duplicate name raw) (duplicate name raw) := by
  refine (Action.alike_ask h fun _ _ => rfl).bind fun a b hab => ?_
  obtain rfl : a = b := hab
  cases a <;> exact Action.alike_throw rfl

theorem alike_deposit (hP : Store.Permits P) (a : Address) {e : Envelope} {d : Delivery}
    (he : Envelope.parse d.octets = .ok e) :
    Action.Alike P Error.blank id (deposit a e d) (deposit a e d) := by
  refine (alike_gistFor a e).bind fun gist gist' hgist => ?_
  obtain rfl : gist = gist' := hgist
  refine (Action.alike_ask (hP.insert a e gist d he) fun _ _ => rfl).bind fun x y hxy => ?_
  obtain rfl : x = y := hxy
  cases x with
  | stored => exact Action.alike_pure rfl
  | duplicate => exact alike_duplicate (hP.raw _) _

theorem alike_accept (hP : Store.Permits P) {sender : String} (h : Store.AdmitsSender P sender)
    (d : Delivery) :
    Action.Alike P Error.blank id (accept sender d) (accept sender d) := by
  rw [accept]
  rcases hsender : Sender.parse? sender with _ | claimed
  · exact Action.alike_throw rfl
  · rcases d.failure with _ | reason
    · rcases henvelope : Envelope.parse d.octets with e | envelope
      · exact Action.alike_throw rfl
      · refine (Action.alike_record _ _).bind fun _ _ _ => ?_
        refine (Registry.alike_getOrCreate (h claimed hsender)).bind fun a b hab => ?_
        obtain rfl : a = b := hab
        exact alike_deposit hP a henvelope
    · exact Action.alike_throw rfl

end Submission

/-! ### Sessions -/

namespace Session

open Submission (Error)

/-- A session that hears a sender is the same session afterwards. -/
theorem alike_hear {s : Session} (hs : s.Admitted P) {sender : String}
    (h : Store.AdmitsSender P sender) :
    Store.Alike P (fun x y : Session => x = y ∧ x.Admitted P) (s.hear sender) (s.hear sender) := by
  rw [hear]
  split
  · exact (Store.Alike.record _ _).bind fun _ _ _ => .done ⟨rfl, hs⟩
  · exact (Store.Alike.record _ _).bind fun _ _ _ => .done ⟨rfl, h⟩

/-- A session that receives data has a result that looks the same, and is the same session
afterwards. -/
theorem alike_receive (hP : Store.Permits P) {s : Session} (hs : s.Admitted P) (d : Delivery) :
    Store.Alike P
      (fun x y : Except Error String × Session =>
        look Error.blank id x.1 = look Error.blank id y.1 ∧ x.2 = y.2 ∧ x.2.Admitted P)
      (s.receive d) (s.receive d) := by
  cases s with
  | receivingSender => exact (Store.Alike.record _ _).bind fun _ _ _ => .done ⟨rfl, rfl, trivial⟩
  | receivingData sender =>
    refine Store.Alike.bind (Submission.alike_accept hP hs d) fun x y hxy => ?_
    refine (Store.Alike.record _ _).bind fun _ _ _ => ?_
    obtain ⟨a, b, rfl, rfl, hab⟩ | ⟨e, e', rfl, rfl, he⟩ := look_eq_look hxy
    · obtain rfl : a = b := hab
      exact .done ⟨rfl, rfl, trivial⟩
    · exact .done ⟨congrArg Except.error he, rfl, trivial⟩
  | resolved name => exact .done ⟨rfl, rfl, trivial⟩
  | rejected => exact .done ⟨rfl, rfl, trivial⟩

theorem alike_submit (hP : Store.Permits P) {sender : String} (h : Store.AdmitsSender P sender)
    (d : Delivery) :
    Action.Alike P Error.blank id (Submission.submit sender d) (Submission.submit sender d) := by
  refine Store.Alike.bind (alike_hear (s := .receivingSender) trivial h) fun s s' hs => ?_
  obtain ⟨rfl, hs⟩ := hs
  refine Store.Alike.bind (alike_receive hP hs d) fun x y hxy => ?_
  exact (Store.Alike.record _ _).bind fun _ _ _ => .done hxy.1

end Session

/-! ### The mailbox -/

namespace Mailbox

open Store (Permits)

/-- A listing that looks the same has the same entries, and summaries that look the
same. -/
theorem map_eq_of_unstamped {α : Type} {f : Preview → α} (hf : ∀ p, f p.unstamped = f p)
    {ps qs : List Preview} (h : ps.map Preview.unstamped = qs.map Preview.unstamped) :
    ps.map f = qs.map f := by
  have hmap : ∀ xs : List Preview, xs.map f = (xs.map Preview.unstamped).map f := fun xs => by
    rw [List.map_map]
    exact List.map_congr_left fun p _ => (hf p).symm
  rw [hmap ps, h, ← hmap qs]

theorem alike_entries (hP : Permits P) : Action.Alike P Failure.blank id entries entries := by
  refine (Action.alike_ask hP.previews fun _ _ => rfl).bind fun ps qs h => ?_
  exact Action.alike_pure (map_eq_of_unstamped (fun _ => rfl) h)

theorem alike_summaries (hP : Permits P) :
    Action.Alike P Failure.blank (List.map Summary.unstamped) summaries summaries := by
  refine (Action.alike_ask hP.previews fun _ _ => rfl).bind fun ps qs h => ?_
  refine Action.alike_pure ?_
  rw [List.map_map, List.map_map]
  exact map_eq_of_unstamped (fun _ => rfl) h

theorem alike_content (hP : Permits P) (name : String) :
    Action.Alike P Failure.blank id (content name) (content name) :=
  Action.alike_ask (hP.raw name) fun _ _ => rfl

theorem alike_headers (hP : Permits P) (name : String) :
    Action.Alike P Failure.blank id (headers name) (headers name) := by
  refine (alike_content hP name).bind fun x y hxy => ?_
  obtain rfl : x = y := hxy
  exact Action.alike_pure rfl

theorem alike_body (hP : Permits P) (name : String) :
    Action.Alike P Failure.blank id (body name) (body name) := by
  refine (alike_content hP name).bind fun x y hxy => ?_
  obtain rfl : x = y := hxy
  exact Action.alike_pure rfl

theorem alike_remove (hP : Permits P) (ids : List String) :
    Action.Alike P Failure.blank id (remove ids) (remove ids) := by
  have heach : Action.Alike P Failure.blank id (removeEach ids) (removeEach ids) := by
    induction ids with
    | nil => exact Action.alike_pure rfl
    | cons name ids ih =>
      exact (Action.alike_ask (hP.delete name) fun _ _ => rfl).bind fun _ _ _ => ih
  exact heach.bind fun _ _ _ => Action.alike_record _ _

theorem alike_detail (hP : Permits P) (name : String) :
    Action.Alike P Failure.blank (Option.map Detail.unstamped) (detail name) (detail name) := by
  refine (Action.alike_ask (hP.message name) fun _ _ => rfl).bind fun x y hxy => ?_
  change x.map Message.unstamped = y.map Message.unstamped at hxy
  rcases x with _ | m <;> rcases y with _ | m'
  · exact Action.alike_pure rfl
  · exact absurd hxy (by simp)
  · exact absurd hxy (by simp)
  · have hm : m.unstamped = m'.unstamped := Option.some.inj hxy
    -- all but the stamps of the two is the same, so one sender is looked up
    obtain ⟨i, n, subject, gist, size, now, raw⟩ := m
    obtain ⟨i', n', subject', gist', size', now', raw'⟩ := m'
    simp only [Message.unstamped, Message.mk.injEq] at hm
    obtain ⟨rfl, rfl, rfl, rfl, rfl, -, rfl⟩ := hm
    refine (Action.alike_ask (hP.address n) fun _ _ => rfl).bind fun a b hab => ?_
    obtain rfl : a = b := hab
    cases a with
    | some a => exact Action.alike_pure rfl
    | none => exact Action.alike_throw rfl

end Mailbox

/-! ### Events -/

/-- All sessions have heard admitted senders. -/
theorem Event.admitted_update {ss : Sessions} (hs : ∀ n, (ss n).Admitted P) {s : Session}
    (h : s.Admitted P) (n : Nat) : ∀ i, (Function.update ss n s i).Admitted P := by
  intro i
  by_cases hi : i = n
  · rw [hi, Function.update_self]
    exact h
  · rw [Function.update_of_ne hi]
    exact hs i

/-- Replies that look the same, with the same sessions. -/
def Event.SameLook (P : Call → Prop) (x y : Reply × Sessions) : Prop :=
  x.1.look = y.1.look ∧ x.2 = y.2 ∧ ∀ n, (x.2 n).Admitted P

/-- **Every event acts alike.** -/
theorem Event.alike_program (hP : Store.Permits P) {ss : Sessions} (hs : ∀ n, (ss n).Admitted P)
    {e : Event} (he : e.Admitted P) :
    Store.Alike P (Event.SameLook P) (e.program ss) (e.program ss) := by
  cases e with
  | hear n sender =>
    refine (Session.alike_hear (hs n) he).bind fun s s' h => ?_
    obtain ⟨rfl, h⟩ := h
    exact .done ⟨rfl, rfl, admitted_update hs h n⟩
  | receive n d =>
    refine (Session.alike_receive hP (hs n) d).bind fun x y h => ?_
    obtain ⟨hlook, hxy, h⟩ := h
    exact .done ⟨by rw [Reply.look, Reply.look, hlook, hxy], by rw [hxy],
      admitted_update hs h n⟩
  | finish n => exact (Store.Alike.record _ _).bind fun _ _ _ => .done ⟨rfl, rfl, hs⟩
  | submit sender d =>
    exact Store.Alike.bind (Session.alike_submit hP he d) fun _ _ h =>
      .done ⟨congrArg Reply.submitted h, rfl, hs⟩
  | getOrCreate email name =>
    exact Store.Alike.bind (Registry.alike_getOrCreate he) fun _ _ h =>
      .done ⟨congrArg Reply.address h, rfl, hs⟩
  | find email =>
    exact Store.Alike.bind (Registry.alike_find he) fun _ _ h =>
      .done ⟨congrArg Reply.found h, rfl, hs⟩
  | remove ids =>
    exact Store.Alike.bind (Mailbox.alike_remove hP ids) fun _ _ h =>
      .done ⟨congrArg Reply.removed h, rfl, hs⟩
  | entries =>
    exact Store.Alike.bind (Mailbox.alike_entries hP) fun _ _ h =>
      .done ⟨congrArg Reply.entries h, rfl, hs⟩
  | summaries =>
    exact Store.Alike.bind (Mailbox.alike_summaries hP) fun _ _ h =>
      .done ⟨congrArg Reply.summaries h, rfl, hs⟩
  | content name =>
    exact Store.Alike.bind (Mailbox.alike_content hP name) fun _ _ h =>
      .done ⟨congrArg Reply.octets h, rfl, hs⟩
  | headers name =>
    exact Store.Alike.bind (Mailbox.alike_headers hP name) fun _ _ h =>
      .done ⟨congrArg Reply.octets h, rfl, hs⟩
  | body name =>
    exact Store.Alike.bind (Mailbox.alike_body hP name) fun _ _ h =>
      .done ⟨congrArg Reply.octets h, rfl, hs⟩
  | detail name =>
    exact Store.Alike.bind (Mailbox.alike_detail hP name) fun _ _ h =>
      .done ⟨congrArg Reply.detail h, rfl, hs⟩
  | call c =>
    exact (Store.Alike.ask he).bind fun _ _ h => .done ⟨congrArg (Reply.called c) h, rfl, hs⟩

/-! ### Services -/

namespace Service

variable {σ τ : Type}

/-- **What the calls of a kind keep, a service keeps**, whatever happens to it at whatever
instants, if the kind admits all emails that come in. -/
theorem run_keeps (hP : Store.Permits P) {b : Instant → Server σ} {I : σ → Prop}
    (hI : ∀ now c s, P c → I s → I ((b now).step c s).state) {es : List (Instant × Event)}
    (he : ∀ x ∈ es, x.2.Admitted P) {s : Service σ} (hs : I s.store)
    (hss : ∀ n, (s.sessions n).Admitted P) : I (run b es s).2.store := by
  induction es generalizing s with
  | nil => exact hs
  | cons x es ih =>
    obtain ⟨now, e⟩ := x
    have hprogram := Event.alike_program hP hss (he _ List.mem_cons_self)
    obtain ⟨⟨-, -, hss'⟩, hs'⟩ := hprogram.keeps (hI now) hs
    exact ih (s := (step (b now) e s).2) (fun x hx => he x (List.mem_cons_of_mem _ hx)) hs' hss'

/-- **What the calls of a kind keep of a ledger, a service keeps** from the empty ledger on. -/
theorem serve_keeps (hP : Store.Permits P) {k : Store.Medium} {I : Store.Ledger → Prop}
    (hempty : I {})
    (hI : ∀ now c l, P c → I l → I ((k.rules.server.stamping now).step c l).state)
    {es : List (Instant × Event)} (he : ∀ x ∈ es, x.2.Admitted P) :
    I (k.ledger (k.serve es).2.store) := by
  have hkeeps : k.Valid (k.serve es).2.store ∧ I (k.ledger (k.serve es).2.store) := by
    refine run_keeps hP (I := fun s => k.Valid s ∧ I (k.ledger s)) (fun now c s hc h => ?_) he
      ⟨k.valid_empty, by rwa [k.ledger_empty]⟩ fun _ => trivial
    -- a call takes the ledger where it would take the ledger alone
    obtain ⟨hvalid, hledger⟩ := (k.refines.stamping now).state c s _ ⟨h.1, rfl⟩
    exact ⟨hvalid, hledger ▸ hI now c _ hc h.2⟩
  exact hkeeps.2

/-- **Services on alike stores have replies that look alike**, if the same happens to both,
though at other instants. -/
theorem run_alike (hP : Store.Permits P) {b : Instant → Server σ} {b' : Instant → Server τ}
    {I : σ → τ → Prop}
    (hI : ∀ now now' c s t, P c → I s t →
      c.look ((b now).step c s).result = c.look ((b' now').step c t).result ∧
        I ((b now).step c s).state ((b' now').step c t).state)
    {es es' : List (Instant × Event)} (hes : es.map Prod.snd = es'.map Prod.snd)
    (he : ∀ x ∈ es, x.2.Admitted P) {s : Service σ} {t : Service τ} (hst : I s.store t.store)
    (hss : s.sessions = t.sessions) (hadmitted : ∀ n, (s.sessions n).Admitted P) :
    (run b es s).1.map Reply.look = (run b' es' t).1.map Reply.look ∧
      (run b es s).2.sessions = (run b' es' t).2.sessions := by
  induction es generalizing es' s t with
  | nil =>
    obtain rfl : es' = [] := List.map_eq_nil_iff.mp hes.symm
    exact ⟨rfl, hss⟩
  | cons x es ih =>
    obtain ⟨now, e⟩ := x
    obtain ⟨⟨now', e'⟩, es'', rfl, he', hes'⟩ := List.map_eq_cons_iff.mp hes.symm
    obtain rfl : e' = e := he'
    have hprogram := Event.alike_program hP hadmitted (he _ List.mem_cons_self)
    obtain ⟨⟨hlook, hss', hadmitted'⟩, hst'⟩ := hprogram.eval (hI now now') hst
    -- the sessions are the same on both sides, so both run the same program next
    obtain ⟨store, sessions⟩ := t
    obtain rfl : s.sessions = sessions := hss
    obtain ⟨hreplies, hsessions⟩ := ih (s := (step (b now) e' s).2)
      (t := (step (b' now') e' ⟨store, s.sessions⟩).2) hes'.symm
      (fun x hx => he x (List.mem_cons_of_mem _ hx)) hst' hss' hadmitted'
    exact ⟨congrArg₂ List.cons hlook hreplies, hsessions⟩

end Service

end Maildrop
