import Maildrop.Proofs.Registry.Race
import Maildrop.Proofs.Submission.Outcome

/-!
# Submissions that share a store

What a submission comes to while others submit too, and while messages are deleted. Between
the store's answer that a message is there already and the look at its octets, that message
may go and come again. But whoever stores a message under an id stores the content that has
the id, and if no two contents that are submitted have one digest, then what is found under
the id of a content is that content. So a submission whose data can be read ends in one of
two ways: its message has been stored, or it is told that it is a resubmission
(`Maildrop.Submission.keeps_accept`).

If nothing is deleted besides, then a message that has been stored stays, and stays as it
is. The discipline says so for both cases at once: in `Maildrop.Submission.sharing` the
proposition `lasting` stands for nothing being deleted.
-/

namespace Maildrop

open Store (Action Call Failure Insertion Ledger Medium Rules Sharing)

namespace Store

/-- Whether a call stores a message. -/
def Call.isInsertion : Call → Bool
  | .insert _ => true
  | _ => false

/-- The tries to store a message, with what has become of them. -/
def insertions (h : List ((c : Call) × c.Result)) : List ((c : Call) × c.Result) :=
  h.filter fun x => x.1.isInsertion

theorem insertions_append (h h' : List ((c : Call) × c.Result)) :
    insertions (h ++ h') = insertions h ++ insertions h' := List.filter_append ..

end Store

/-- The message holds a content, under the id of the content. -/
structure NewMessage.Carries (m : NewMessage) (content : Bytes) : Prop where
  raw : m.raw = content
  id : m.id = MessageId.ofContent content

namespace Registry

/-- Registering an email takes three calls at most. -/
theorem Asked.length_le {h : List ((c : Call) × c.Result)} (hh : Asked h) : h.length ≤ 3 := by
  have hcover : h.length ≤
      h.countP (fun x => x.1.isLookup) + h.countP (fun x => x.1.isCreation) := by
    have hall := hh.only
    induction h with
    | nil => simp
    | cons x h ih =>
      have hrest := ih (hh.of_sublist (List.sublist_cons_self x h)) fun y hy =>
        hall y (List.mem_cons_of_mem _ hy)
      have hx := hall x List.mem_cons_self
      simp only [List.length_cons, List.countP_cons]
      rcases hx with hx | hx <;> simp only [hx, if_true] <;> omega
  have := hh.lookups
  have := hh.creations
  omega

/-- Registering an email stores no message. -/
theorem Asked.insertions_eq_nil {h : List ((c : Call) × c.Result)} (hh : Asked h) :
    Store.insertions h = [] := by
  rw [Store.insertions, List.filter_eq_nil_iff]
  rintro ⟨c, r⟩ hx
  have := hh.only _ hx
  cases c <;> simp_all [Call.isLookup, Call.isCreation, Call.isInsertion]

end Registry

namespace Submission

/-! ### The discipline of submissions -/

section Sharing

variable {ι : Type} (k : Medium) (octets : ι → Bytes) (lasting : Prop)

/-- **The way in which submissions share a store**: whoever stores a message stores one of
the contents that are submitted under its id, and if messages are to last, nobody deletes
any. -/
def sharing : Sharing k where
  Allowed
    | .insert m => ∃ i, m.Carries (octets i)
    | .delete _ => ¬lasting
    | _ => True
  Inv s := k.Valid s ∧ ∀ m ∈ (k.ledger s).messages,
    m.id = MessageId.ofContent m.raw ∧ ∃ i, m.raw = octets i
  Later s t := (k.ledger s).addresses <+: (k.ledger t).addresses ∧
    (lasting → (k.ledger s).messages <+: (k.ledger t).messages)
  refl _ := ⟨List.prefix_refl _, fun _ => List.prefix_refl _⟩
  trans h h' := ⟨h.1.trans h'.1, fun hl => (h.2 hl).trans (h'.2 hl)⟩
  inv_step {c s} hc hs := by
    refine ⟨Medium.valid_step hs.1 c, ?_⟩
    rw [hs.1.ledger_step]
    obtain ⟨-, heq⟩ | ⟨m, hm, -, heq⟩ | ⟨id, -, heq⟩ := k.rules.messages_step (k.ledger s) c
    · rw [heq]
      exact hs.2
    · rw [heq]
      intro x hx
      rcases List.mem_append.mp hx with hx | hx
      · exact hs.2 x hx
      · obtain rfl : c = .insert m := congrArg Sigma.fst hm
        obtain ⟨i, hi⟩ := hc
        rw [List.mem_singleton.mp hx]
        exact ⟨by rw [NewMessage.stored, hi.id, hi.raw], i, hi.raw⟩
    · rw [heq]
      exact fun x hx => hs.2 x (List.mem_filter.mp hx).1
  later_step {c s} hc hs := by
    rw [hs.1.ledger_step]
    refine ⟨k.rules.addresses_isPrefix _ c, fun hl => k.rules.messages_isPrefix _ ?_⟩
    rintro id rfl
    exact hc hl
  valid hs := hs.1
  addresses hst := hst.1

end Sharing

/-! ### What a submission promises -/

/-- **How far a submission has come**, by what it has done to store its message. -/
inductive Progress (raw : Bytes) :
    Option (Except Error String) → List ((c : Call) × c.Result) → Prop where
  /-- It has not tried yet. -/
  | registering {h} (hh : Store.insertions h = []) : Progress raw none h
  /-- The message was there already, and the submission has not looked at it yet. -/
  | comparing {h m} (hm : m.Carries raw)
    (hh : Store.insertions h = [⟨.insert m, .ok .duplicate⟩]) : Progress raw none h
  /-- It has stored its message. -/
  | stored {h m} (hm : m.Carries raw)
    (hh : Store.insertions h = [⟨.insert m, .ok .stored⟩]) :
    Progress raw (some (.ok (MessageId.ofContent raw))) h
  /-- The message was there already, and the submission has been told so. -/
  | resubmitted {h m} (hm : m.Carries raw)
    (hh : Store.insertions h = [⟨.insert m, .ok .duplicate⟩]) :
    Progress raw (some (.error (.resubmission (MessageId.ofContent raw)))) h

/-- **What a submission promises**, for a delivery from a sender that can be read. -/
structure Promised (k : Medium) (lasting : Prop) (claimed : Sender) (envelope : Envelope)
    (d : Delivery) (v : Option (Except Error String)) (h : List ((c : Call) × c.Result))
    (s : k.State) : Prop where
  progress : Progress d.octets v h
  unfinished : v = none → h.length ≤ 4
  /-- If messages last, the message that has been stored is there, with its sender. -/
  stored : lasting → ∀ id, v = some (.ok id) → ∃ a, ∃ m ∈ (k.ledger s).messages,
    k.rules.addressByEmail? (k.ledger s) (normalizeEmail claimed.email) = some a ∧
      IsMessageOf d envelope a m
  /-- If messages last, a resubmitted content is there. -/
  resubmitted : lasting → ∀ e, v = some (.error e) →
    ∃ m ∈ (k.ledger s).messages, m.raw = d.octets

/-! ### Keeping the promise -/

/-- **No two different contents have one id.** -/
def Apart {ι : Type} (octets : ι → Bytes) : Prop :=
  ∀ i j, MessageId.ofContent (octets i) = MessageId.ofContent (octets j) → octets i = octets j

variable {ι : Type} {k : Medium} {octets : ι → Bytes} {lasting : Prop} {claimed : Sender}
  {envelope : Envelope} {d : Delivery} {s : k.State} {h : List ((c : Call) × c.Result)}

/-- What is found under the id of a submitted content is that content. -/
theorem raw_eq_of_message? (hids : Apart octets) (hs : (sharing k octets lasting).Inv s) {i : ι}
    {m : Message} (hm : (k.ledger s).message? (MessageId.ofContent (octets i)) = some m) :
    m.raw = octets i := by
  obtain ⟨hid, j, hj⟩ := hs.2 m (Ledger.mem_of_message? hm)
  have hsame := Ledger.id_of_message? hm
  rw [hid, hj] at hsame
  rw [hj, hids j i hsame]

/-- The gist of an envelope is had without a call. -/
theorem keeps_gistFor {b : Store.Server k.State} (D : Discipline b) (a : Address)
    (e : Envelope) (h : List ((c : Call) × c.Result)) (s : k.State) :
    (gistFor a e).run.Keeps D (fun v h' t => v = some (.ok e.gist?) ∧ h' = h ∧ D.Later s t)
      h s := by
  rw [gistFor, Envelope.gist?]
  rcases e.gist with _ | gist
  · exact Action.keeps_record_bind (Action.keeps_pure fun _ _ hst => ⟨rfl, rfl, hst⟩)
  · exact Action.keeps_pure fun _ _ hst => ⟨rfl, rfl, hst⟩

/-- **A message that is in the way is the same message**, or it is gone again. -/
theorem keeps_duplicate (hids : Apart octets) {i : ι} (hi : octets i = d.octets)
    (hlength : h.length ≤ 4) {m : NewMessage} (hm : m.Carries d.octets)
    (hh : Store.insertions h = [⟨.insert m, .ok .duplicate⟩])
    (hthere : lasting → ∃ x ∈ (k.ledger s).messages, x.raw = d.octets) :
    (duplicate (MessageId.ofContent d.octets) d.octets).run.Keeps
      (sharing k octets lasting).toDiscipline (Promised k lasting claimed envelope d) h s := by
  refine (sharing k octets lasting).keeps_ask_bind (fun _ => rfl) (by trivial)
    (fun t _ _ => ?_) ?_
  · exact ⟨.comparing hm hh, fun _ => hlength, fun _ _ => by simp, fun _ _ => by simp⟩
  · intro t ht hst
    have hlater := (sharing k octets lasting).trans hst
      ((sharing k octets lasting).later_step (c := .raw (MessageId.ofContent d.octets)) trivial ht)
    -- whether the message is still there or not, the submission is told the same
    have hpromised : ∀ x u,
        (sharing k octets lasting).Later (k.backend.step (.raw (MessageId.ofContent d.octets))
          t).state u →
        Promised k lasting claimed envelope d
          (some (.error (.resubmission (MessageId.ofContent d.octets))))
          (h ++ [⟨.raw (MessageId.ofContent d.octets), x⟩]) u := by
      intro x u htu
      refine ⟨.resubmitted hm ?_, by simp, fun _ _ => by simp, fun hl _ _ => ?_⟩
      · rw [Store.insertions_append, hh]
        rfl
      · obtain ⟨y, hy, hraw⟩ := hthere hl
        exact ⟨y, (((sharing k octets lasting).trans hlater htu).2 hl).subset hy, hraw⟩
    rcases hx : (k.ledger t).message? (MessageId.ofContent d.octets) with _ | x
    · exact Action.keeps_throw fun u _ htu => hpromised _ u htu
    · have hraw : x.raw = d.octets := by
        rw [← hi] at hx ⊢
        exact raw_eq_of_message? hids ht hx
      change (throw (if x.raw = d.octets then _ else _) : Action Error String).run.Keeps _ _ _ _
      rw [if_pos hraw]
      exact Action.keeps_throw fun u _ htu => hpromised _ u htu

/-- A message from a known sender is stored, unless its id is in use. -/
theorem step_insert (hs : k.Valid s) {m : NewMessage}
    (hknown : ((k.ledger s).address? m.senderId).isSome) :
    ((k.backend.step (.insert m) s).result = .ok .stored ∧
      k.ledger (k.backend.step (.insert m) s).state = (k.ledger s).addMessage m.stored) ∨
    (((k.ledger s).message? m.id).isSome ∧
      (k.backend.step (.insert m) s).result = .ok .duplicate ∧
      k.ledger (k.backend.step (.insert m) s).state = k.ledger s) := by
  have hresult : (k.backend.step (.insert m) s).result = (k.rules.insert (k.ledger s) m).1 :=
    hs.ask_eq _
  have hledger : k.ledger (k.backend.step (.insert m) s).state =
      (k.rules.insert (k.ledger s) m).2 := hs.ledger_step _
  obtain ⟨-, heq⟩ | ⟨hsome, heq⟩ := k.rules.insert_of_known (k.ledger s) hknown
  · rw [heq] at hresult hledger
    exact .inl ⟨hresult, hledger⟩
  · rw [heq] at hresult hledger
    exact .inr ⟨hsome, hresult, hledger⟩

/-- **A message whose sender has an address is stored**, unless it is there already. -/
theorem keeps_insert (hids : Apart octets) {i : ι} (hi : octets i = d.octets)
    (hlength : h.length ≤ 3) (hh : Store.insertions h = []) {a : Address}
    (ha : k.rules.addressByEmail? (k.ledger s) (normalizeEmail claimed.email) = some a)
    {m : NewMessage} (hcarries : m.Carries d.octets)
    (hmessage : IsMessageOf d envelope a m.stored) :
    (do
      match ← Action.ask (.insert m) Error.storage with
      | .stored => pure m.id
      | .duplicate => duplicate m.id m.raw : Action Error String).run.Keeps
        (sharing k octets lasting).toDiscipline (Promised k lasting claimed envelope d) h s := by
  have hallowed : (sharing k octets lasting).Allowed (.insert m) := ⟨i, hi ▸ hcarries⟩
  have hstep : ∀ {u}, (sharing k octets lasting).Inv u → (sharing k octets lasting).Later s u →
      ((k.ledger u).address? m.senderId).isSome := by
    intro u hu hsu
    have hau := (sharing k octets lasting).addressByEmail? ha hsu
    rw [show m.senderId = a.id from hmessage.sender,
      hu.1.sound.address?_of_mem (List.mem_of_find?_eq_some hau)]
    rfl
  refine Action.keeps_ask_bind hallowed (fun u _ _ => ?_) ?_ ?_
  · exact ⟨.registering hh, fun _ => by omega, fun _ _ => by simp, fun _ _ => by simp⟩
  · intro u x hu hsu hresult
    obtain ⟨hok, hledger⟩ | ⟨hsome, hok, hledger⟩ := step_insert hu.1 (hstep hu hsu)
    · obtain rfl := Except.ok.inj (hok.symm.trans hresult)
      rw [show m.id = _ from hcarries.id]
      refine Action.keeps_pure fun v _ huv => ⟨.stored hcarries ?_, by simp, fun hl _ _ => ?_,
        fun _ _ => by simp⟩
      · rw [Store.insertions_append, hh]
        rfl
      · have hsv := (sharing k octets lasting).trans hsu
          ((sharing k octets lasting).trans
            ((sharing k octets lasting).later_step hallowed hu) huv)
        refine ⟨a, m.stored, (huv.2 hl).subset ?_, ?_, hmessage⟩
        · rw [hledger]
          exact List.mem_append_right _ (List.mem_singleton.mpr rfl)
        · exact (sharing k octets lasting).addressByEmail? ha hsv
    · obtain rfl := Except.ok.inj (hok.symm.trans hresult)
      -- what is in the way has the content of the message, since it has its id
      obtain ⟨y, hy⟩ := Option.isSome_iff_exists.mp hsome
      rw [hcarries.id, ← hi] at hy
      have hraw : y.raw = octets i := raw_eq_of_message? hids hu hy
      rw [show m.id = _ from hcarries.id, show m.raw = _ from hcarries.raw]
      refine keeps_duplicate hids hi ?_ hcarries ?_ fun _ => ?_
      · rw [List.length_append, List.length_singleton]
        omega
      · rw [Store.insertions_append, hh]
        rfl
      · rw [hledger]
        exact ⟨y, Ledger.mem_of_message? hy, hraw.trans hi⟩
  · intro u e hu hsu hresult
    obtain ⟨hok, -⟩ | ⟨-, hok, -⟩ := step_insert hu.1 (hstep hu hsu)
    · exact absurd (hok.symm.trans hresult) (by simp)
    · exact absurd (hok.symm.trans hresult) (by simp)

/-- The message of a delivery is deposited. -/
theorem keeps_deposit (hids : Apart octets) {i : ι} (hi : octets i = d.octets)
    (hs : (sharing k octets lasting).Inv s) (hlength : h.length ≤ 3)
    (hh : Store.insertions h = []) {a : Address}
    (ha : k.rules.addressByEmail? (k.ledger s) (normalizeEmail claimed.email) = some a) :
    (deposit a envelope d).run.Keeps (sharing k octets lasting).toDiscipline
      (Promised k lasting claimed envelope d) h s := by
  refine Action.keeps_bind (keeps_gistFor _ a envelope h s) hs (fun h t hv => ?_)
    (fun e h t _ hv => ?_) ?_
  · exact absurd hv.1 (by simp)
  · exact absurd hv.1 (by simp)
  · rintro gist _ t ht ⟨hgist, rfl, hst⟩
    obtain rfl : gist = envelope.gist? := Except.ok.inj (Option.some.inj hgist)
    exact keeps_insert hids hi hlength hh ((sharing k octets lasting).addressByEmail? ha hst)
      ⟨rfl, rfl⟩ (isMessageOf_newMessage d envelope a)

/-- **A submission keeps its promise** among others who share the store. -/
theorem keeps_accept (hids : Apart octets) {i : ι} (hi : octets i = d.octets) {sender : String}
    (hreading : reading sender d = .ok (claimed, envelope))
    (hs : (sharing k octets lasting).Inv s) :
    (accept sender d).run.Keeps (sharing k octets lasting).toDiscipline
      (Promised k lasting claimed envelope d) [] s := by
  rw [accept_of_reading_ok hreading]
  refine Action.keeps_record_bind (Action.keeps_bind
    (Registry.keeps_getOrCreate (sharing k octets lasting) trivial trivial) hs ?_ ?_ ?_)
  · intro h t hP
    have := hP.unfinished rfl
    exact ⟨.registering hP.asked.insertions_eq_nil, fun _ => by omega, fun _ _ => by simp,
      fun _ _ => by simp⟩
  · intro e h t _ hP
    obtain ⟨a, ha, -⟩ := hP.found _ rfl
    exact absurd ha (by simp)
  · intro a h t ht hP
    obtain ⟨a', ha', hfound⟩ := hP.found _ rfl
    obtain rfl := Except.ok.inj ha'
    exact keeps_deposit hids hi ht hP.asked.length_le hP.asked.insertions_eq_nil hfound

/-- A promise that is true stays so, whatever others do. -/
theorem Promised.later {v : Option (Except Error String)} {t : k.State}
    (h' : Promised k lasting claimed envelope d v h s)
    (hst : (sharing k octets lasting).Later s t) :
    Promised k lasting claimed envelope d v h t where
  progress := h'.progress
  unfinished := h'.unfinished
  stored hl id hid := by
    obtain ⟨a, m, hm, ha, hof⟩ := h'.stored hl id hid
    exact ⟨a, m, (hst.2 hl).subset hm, (sharing k octets lasting).addressByEmail? ha hst, hof⟩
  resubmitted hl e he := by
    obtain ⟨m, hm, hraw⟩ := h'.resubmitted hl e he
    exact ⟨m, (hst.2 hl).subset hm, hraw⟩

end Submission

namespace Session

open Submission

variable {ι : Type} {k : Medium} {octets : ι → Bytes} {lasting : Prop} {claimed : Sender}
  {envelope : Envelope} {d : Delivery} {s : k.State}

/-- **What a session promises**: what its submission promises, and to be over with the
verdict. -/
structure Promised (k : Medium) (lasting : Prop) (claimed : Sender) (envelope : Envelope)
    (d : Delivery) (v : Option (Except Submission.Error String × Session))
    (h : List ((c : Call) × c.Result)) (s : k.State) : Prop where
  submission : Submission.Promised k lasting claimed envelope d (v.map Prod.fst) h s
  session : ∀ r, v = some r → r.2 = ofVerdict r.1

/-- **A session keeps its promise** among others who share the store. -/
theorem keeps_receive (hids : Apart octets) {i : ι} (hi : octets i = d.octets) {sender : String}
    (hreading : reading sender d = .ok (claimed, envelope))
    (hs : (sharing k octets lasting).Inv s) :
    ((receivingData sender).receive d).Keeps (sharing k octets lasting).toDiscipline
      (Promised k lasting claimed envelope d) [] s := by
  refine (keeps_accept hids hi hreading hs).bind hs (fun h t hP => ⟨hP, by simp⟩) ?_
  -- the submission is done, and all that is left to do is to leave a record
  rintro (e | id) h t ht hP
  · exact fun u _ htu => ⟨hP.later htu, fun _ hr => by rw [← Option.some.inj hr]; rfl⟩
  · exact fun u _ htu => ⟨hP.later htu, fun _ hr => by rw [← Option.some.inj hr]; rfl⟩

end Session

end Maildrop
