import Maildrop.Proofs.Registry
import Maildrop.Proofs.Store.Medium
import Maildrop.Submission.Session

/-!
# The outcome of a submission

What becomes of one delivery, for every sender text, all data and everything that a
store may hold already.

The *verdict* (`Maildrop.Submission.verdict`) is what the submitter is told. It is
reached in a fixed order: the sender has to be one, the data have to be read to their
end, they have to be a message (`Maildrop.Submission.reading`), and then the store has
to hold nothing under the id of the data. The *effect*
(`Maildrop.Submission.Leaves`) is what the store holds afterwards. If the reading
fails, that is what it held before. Otherwise the claimed email has an address, old or
new, and if the verdict is good there is one more message, at the end of the list.

On the ledger this is a computation (`Maildrop.Submission.eval_accept`); the main
statement (`Maildrop.Session.receive_outcome`) is about stores of either kind that any
calls have filled, and says besides that no call of the session takes a place that no
list has.
-/

namespace Maildrop

open Store (Action Call Ledger Medium Rules)

/-- The gist of an envelope, if there is one that can be had. -/
def Envelope.gist? (e : Envelope) : Option String :=
  match e.gist with
  | .ok gist => gist
  | .error _ => none

namespace Submission

/-! ### Verdict and effect -/

/-- **What is read of a delivery** before anything is written: the claimed sender and
the envelope. -/
def reading (sender : String) (d : Delivery) : Except Error (Sender × Envelope) :=
  match Sender.parse? sender, d.failure, Envelope.parse d.octets with
  | none, _, _ => .error (.malformedSender sender)
  | some _, some reason, _ => .error (.read reason)
  | some _, none, .error e => .error (.unreadable e)
  | some claimed, none, .ok envelope => .ok (claimed, envelope)

/-- **A delivery can be read** if its sender is one, its data have come to their end, and they
are a message. -/
theorem reading_eq_ok_iff {sender : String} {d : Delivery} {claimed : Sender}
    {envelope : Envelope} :
    reading sender d = .ok (claimed, envelope) ↔
      Sender.parse? sender = some claimed ∧ d.failure = none ∧
        Envelope.parse d.octets = .ok envelope := by
  rw [reading]
  split <;> simp_all

/-- **The verdict on a delivery**, by what is stored under the id of its content. -/
def verdict (sender : String) (d : Delivery) (stored : Option Bytes) : Except Error String :=
  match reading sender d, stored with
  | .error e, _ => .error e
  | .ok _, none => .ok (MessageId.ofContent d.octets)
  | .ok _, some raw =>
    if raw = d.octets then .error (.resubmission (MessageId.ofContent d.octets))
    else .error (.idCollision (MessageId.ofContent d.octets))

/-- **The message of a delivery**: what every field holds if the envelope is `e` and the
sender's address `a`. -/
structure IsMessageOf (d : Delivery) (e : Envelope) (a : Address) (m : Message) : Prop where
  id : m.id = MessageId.ofContent d.octets
  sender : m.senderId = a.id
  subject : Text.truncate? (e.subject.map String.toList) subjectLimit true =
    .ok m.subjectPreview.toList
  body : Text.truncate? (e.gist?.map String.toList) bodyLimit false = .ok m.bodyPreview.toList
  size : m.size = d.octets.length
  raw : m.raw = d.octets
  receivedAt : m.receivedAt = d.receivedAt

/-- **What a delivery leaves behind**: how the state after it comes from the state before,
if the verdict is `result`. -/
def Leaves (k : Medium) (sender : String) (d : Delivery) (result : Except Error String)
    (s s' : k.State) : Prop :=
  match reading sender d with
  | .error _ => s' = s
  | .ok (claimed, envelope) =>
    ∃ found address message,
      k.ask (.addressByEmail (normalizeEmail claimed.email)) s = .ok found ∧
      address = found.getD ((k.ledger s).newAddress (normalizeEmail claimed.email) claimed.name) ∧
      (k.ledger s').addresses =
        (k.ledger s).addresses ++ (if found.isNone then [address] else []) ∧
      IsMessageOf d envelope address message ∧
      (k.ledger s').messages =
        (k.ledger s).messages ++ (if result.isOk then [message] else [])

/-! ### The steps of a submission -/

/-- Both previews have legal limits, and are cut to them. -/
theorem truncate?_eq_preview (t : Option String) {limit : Nat} {dots : Bool}
    (h : Text.isLimit limit dots) :
    Text.truncate? (t.map String.toList) limit dots = .ok (preview t limit dots).toList := by
  rw [Text.truncate?, if_pos h, preview, String.toList_ofList]

theorem isMessageOf_newMessage (d : Delivery) (e : Envelope) (a : Address) :
    IsMessageOf d e a (newMessage a e e.gist? d).stored where
  id := rfl
  sender := rfl
  subject := truncate?_eq_preview _ rfl
  body := truncate?_eq_preview _ rfl
  size := rfl
  raw := rfl
  receivedAt := rfl

/-- A gist that cannot be had is no reason to fail. -/
theorem eval_gistFor {σ : Type} (b : Store.Server σ) (a : Address) (e : Envelope) (s : σ) :
    (gistFor a e).eval b s = (.ok e.gist?, s) := by
  rw [gistFor, Envelope.gist?]
  rcases e.gist with _ | _ <;> rfl

/-- **A submission does nothing to the store until the reading has succeeded.** -/
theorem accept_of_reading_error {sender : String} {d : Delivery} {e : Error}
    (h : reading sender d = .error e) : accept sender d = throw e := by
  revert h
  rw [accept, reading]
  split <;> simp_all

/-- After that it registers the sender and deposits the message. -/
theorem accept_of_reading_ok {sender : String} {d : Delivery} {claimed : Sender}
    {envelope : Envelope} (h : reading sender d = .ok (claimed, envelope)) :
    accept sender d =
      Action.record (envelopeRecord envelope) >>= fun _ =>
        Registry.getOrCreate claimed.email claimed.name >>= fun address =>
          deposit address envelope d := by
  revert h
  rw [accept, reading]
  split <;> simp_all

variable (r : Rules) (l : Ledger)

/-- A message that is in the way has the same octets or others. -/
theorem eval_duplicate {id : String} {m : Message} (h : l.message? id = some m) (raw : Bytes) :
    (duplicate id raw).eval r.server l =
      (.error (if m.raw = raw then .resubmission id else .idCollision id), l) := by
  have hraw : (r.server.step (.raw id) l).result = .ok (some m.raw) := by
    change Except.ok ((l.message? id).map Message.raw) = _
    rw [h]
    rfl
  rw [duplicate, Action.eval_ask_bind hraw]
  rfl

/-- A message whose sender is known is stored, unless its id is in use. -/
theorem eval_deposit {a : Address} (ha : (l.address? a.id).isSome) (e : Envelope)
    (d : Delivery) :
    (deposit a e d).eval r.server l =
      match l.message? (MessageId.ofContent d.octets) with
      | none =>
        (.ok (MessageId.ofContent d.octets), l.addMessage (newMessage a e e.gist? d).stored)
      | some m =>
        (.error (if m.raw = d.octets then .resubmission (MessageId.ofContent d.octets)
          else .idCollision (MessageId.ofContent d.octets)), l) := by
  rw [deposit, Action.eval_bind_ok (eval_gistFor ..)]
  -- the sender is known, so the store refuses the message for nothing but its id
  have hknown : (l.address? (newMessage a e e.gist? d).senderId).isSome := ha
  obtain ⟨hnew, hinsert⟩ | ⟨hused, hinsert⟩ := r.insert_of_known l hknown
  · have hresult : (r.server.step (.insert (newMessage a e e.gist? d)) l).result = .ok .stored :=
      congrArg Prod.fst hinsert
    rw [Action.eval_ask_bind hresult,
      show l.message? (MessageId.ofContent d.octets) = none from hnew]
    exact congrArg (fun x : _ × Ledger => (Except.ok _, x.2)) hinsert
  · have hresult : (r.server.step (.insert (newMessage a e e.gist? d)) l).result =
        .ok .duplicate := congrArg Prod.fst hinsert
    obtain ⟨m, hm⟩ := Option.isSome_iff_exists.mp hused
    rw [Action.eval_ask_bind hresult,
      show l.message? (MessageId.ofContent d.octets) = some m from hm]
    change (duplicate _ _).eval r.server (r.insert l _).2 = _
    rw [hinsert]
    exact eval_duplicate r l hm _

variable {r l}

/-- **What a submission does to the ledger** once it has been read: the sender has an
address, and the message is stored unless its id is in use. -/
theorem eval_accept (h : r.Sound l) {sender : String} {d : Delivery} {claimed : Sender}
    {envelope : Envelope} (hreading : reading sender d = .ok (claimed, envelope)) :
    (accept sender d).eval r.server l =
      (verdict sender d ((l.message? (MessageId.ofContent d.octets)).map Message.raw),
        if (l.message? (MessageId.ofContent d.octets)).isSome then
          r.register l claimed.email claimed.name
        else
          (r.register l claimed.email claimed.name).addMessage
            (newMessage (r.resolve l claimed.email claimed.name) envelope envelope.gist?
              d).stored) := by
  have hknown := h.address?_resolve claimed.email claimed.name
  -- what the registry does leaves the messages alone, so the verdict can be read off before
  have hmessage : (r.register l claimed.email claimed.name).message?
      (MessageId.ofContent d.octets) = l.message? (MessageId.ofContent d.octets) := by
    rw [Ledger.message?, Rules.messages_register]
    rfl
  simp only [accept_of_reading_ok hreading, Action.eval_bind, Action.eval_record,
    Registry.eval_getOrCreate,
    eval_deposit r _ (a := r.resolve l claimed.email claimed.name) (by rw [hknown]; rfl),
    hmessage, verdict, hreading]
  rcases l.message? (MessageId.ofContent d.octets) with _ | m
  · rfl
  · simp only [Option.map_some, Option.isSome_some, if_true]
    split <;> rfl

/-- On a ledger the submitter is told the verdict. -/
theorem eval_accept_fst (h : r.Sound l) (sender : String) (d : Delivery) :
    ((accept sender d).eval r.server l).1 =
      verdict sender d ((l.message? (MessageId.ofContent d.octets)).map Message.raw) := by
  rcases hreading : reading sender d with e | ⟨claimed, envelope⟩
  · simp only [accept_of_reading_error hreading, Action.eval_throw, verdict, hreading]
  · rw [eval_accept h hreading]

/-- A submission leaves behind what its verdict says. -/
theorem leaves_eval_accept {k : Medium} {s : k.State} (h : k.Valid s) (sender : String)
    (d : Delivery) :
    Leaves k sender d
      (verdict sender d (((k.ledger s).message? (MessageId.ofContent d.octets)).map Message.raw))
      s ((accept sender d).eval k.backend s).2 := by
  rw [Leaves]
  rcases hreading : reading sender d with e | ⟨claimed, envelope⟩
  · rw [accept_of_reading_error hreading]
    rfl
  · have hledger : k.ledger ((accept sender d).eval k.backend s).2 =
        ((accept sender d).eval k.rules.server (k.ledger s)).2 := (h.eval_eq (accept sender d)).2.2
    rw [eval_accept h.sound hreading] at hledger
    refine ⟨k.rules.addressByEmail? (k.ledger s) (normalizeEmail claimed.email),
      k.rules.resolve (k.ledger s) claimed.email claimed.name, _, h.ask_eq _, rfl, ?_,
      isMessageOf_newMessage .., ?_⟩
    · rw [hledger, ← Rules.addresses_register]
      split <;> rfl
    · -- whether the id is in use decides the verdict and the list of messages alike
      simp only [hledger, verdict, hreading]
      rcases (k.ledger s).message? (MessageId.ofContent d.octets) with _ | m
      · exact congrArg (· ++ _) (Rules.messages_register ..)
      · simp only [Option.map_some, Option.isSome_some, if_true, Rules.messages_register]
        split <;> exact (List.append_nil _).symm

end Submission

namespace Session

open Submission

/-- The session after a verdict. -/
def ofVerdict : Except Submission.Error String → Session
  | .ok id => .resolved id
  | .error _ => .rejected

/-- A session in which data are awaited hands them on. -/
theorem eval_receive {σ : Type} (b : Store.Server σ) (sender : String) (d : Delivery) (s : σ) :
    ((receivingData sender).receive d).eval b s =
      ((((accept sender d).eval b s).1, ofVerdict ((accept sender d).eval b s).1),
        ((accept sender d).eval b s).2) := by
  rw [receive, Program.eval_bind, Program.eval_bind, Action.eval_run]
  rcases (accept sender d).eval b s with ⟨_ | _, s'⟩ <;> rfl

/-- **The outcome of a submission** to a store of either kind that any calls have filled:
no call of the session takes a place that no list has; the submitter is told the verdict,
and the session is over; and the store holds what the verdict says. -/
theorem receive_outcome (k : Medium) (cs : List Call) (sender : String) (d : Delivery) :
    (∀ x ∈ ((receivingData sender).receive d).trace k.backend (k.after cs),
      ¬k.Underflows x.1 x.2) ∧
    ∃ stored, k.ask (.raw (MessageId.ofContent d.octets)) (k.after cs) = .ok stored ∧
      (((receivingData sender).receive d).eval k.backend (k.after cs)).1 =
        (verdict sender d stored, ofVerdict (verdict sender d stored)) ∧
      Leaves k sender d (verdict sender d stored) (k.after cs)
        (((receivingData sender).receive d).eval k.backend (k.after cs)).2 := by
  generalize hs : k.after cs = s
  have hv : k.Valid s := hs ▸ k.valid_after cs
  refine ⟨fun x hx => ?_, ((k.ledger s).message? (MessageId.ofContent d.octets)).map Message.raw,
    hv.ask_eq _, ?_, ?_⟩
  · have hvalid := Program.forall_mem_trace (I := k.Valid)
      (fun c s hs => Medium.valid_step hs c) _ hv x hx
    exact hvalid.not_underflows x.1
  · have heval : ((accept sender d).eval k.backend s).1 =
        ((accept sender d).eval k.rules.server (k.ledger s)).1 := (hv.eval_eq (accept sender d)).1
    rw [eval_receive, heval, eval_accept_fst hv.sound]
  · rw [eval_receive]
    exact leaves_eval_accept hv sender d

end Session

end Maildrop
