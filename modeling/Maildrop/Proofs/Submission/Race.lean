import Maildrop.Proofs.MessageId
import Maildrop.Proofs.Submission.Sharing

/-!
# The same submission at the same time

Any number of sessions submit at once, some of them the same content, while messages are
deleted. Each session is told one of two things: that its message has been stored, or that it
was a resubmission (`Maildrop.Submission.simultaneous`).

How often a content has been stored is a matter of counting. A content that is in the store
has come in by one of the sessions, and the session has been told so; it goes if it is
deleted. Since it cannot come in while it is there, the sessions that have stored it are as
many as the deletes that have taken it away, and one more if it is there in the end
(`Maildrop.Submission.Raced.balance`). Where nothing is deleted, this leaves one session for
each content (`Maildrop.Submission.Settled.winner`).
-/

namespace Maildrop

open Store (Action Call Ledger Medium Rules)

/-! ### The coming and going of a content -/

namespace Store

/-- Whether a ledger holds a message with a content. -/
def Ledger.holds (l : Ledger) (raw : Bytes) : Bool := l.messages.any fun m => m.raw = raw

theorem Ledger.holds_iff {l : Ledger} {raw : Bytes} :
    l.holds raw ↔ ∃ m ∈ l.messages, m.raw = raw := by
  simp [holds]

/-- What is held is held as long as messages last. -/
theorem Ledger.holds_of_isPrefix {l l' : Ledger} {raw : Bytes} (h : l.holds raw)
    (hl : l.messages <+: l'.messages) : l'.holds raw := by
  obtain ⟨m, hm, hraw⟩ := holds_iff.mp h
  exact holds_iff.mpr ⟨m, hl.subset hm, hraw⟩

/-- Where messages are named by their contents, a content goes with its id and with no
other. -/
theorem Ledger.holds_strike {l : Ledger} (h : ∀ m ∈ l.messages, m.id = MessageId.ofContent m.raw)
    (id : String) (raw : Bytes) :
    (l.strike id).holds raw = (l.holds raw && id ≠ MessageId.ofContent raw) := by
  rw [Bool.eq_iff_iff, Bool.and_eq_true, decide_eq_true_iff, holds_iff, holds_iff]
  constructor
  · rintro ⟨m, hm, rfl⟩
    obtain ⟨hmem, hne⟩ := List.mem_filter.mp hm
    exact ⟨⟨m, hmem, rfl⟩, fun hid => of_decide_eq_true hne ((h m hmem).trans hid.symm)⟩
  · rintro ⟨⟨m, hm, rfl⟩, hne⟩
    refine ⟨m, List.mem_filter.mpr ⟨hm, decide_eq_true fun hid => hne ?_⟩, rfl⟩
    rw [← hid, h m hm]

/-- Where messages are named by their contents, a content is held once. -/
theorem Rules.Sound.filter_raw {r : Rules} {l : Ledger} (hl : r.Sound l)
    (h : ∀ m ∈ l.messages, m.id = MessageId.ofContent m.raw) {m : Message} (hm : m ∈ l.messages) :
    l.messages.filter (fun x => x.raw = m.raw) = [m] := by
  have hall : ∀ x ∈ l.messages.filter (fun x => x.raw = m.raw), x = m := by
    intro x hx
    obtain ⟨hmem, hraw⟩ := List.mem_filter.mp hx
    refine List.inj_on_of_nodup_map hl.unique hmem hm ?_
    rw [h x hmem, h m hm, of_decide_eq_true hraw]
  have hnodup : (l.messages.filter fun x => x.raw = m.raw).Nodup := hl.unique.of_map.filter _
  have hlength : 0 < (l.messages.filter fun x => x.raw = m.raw).length :=
    List.length_pos_of_mem (List.mem_filter.mpr ⟨hm, decide_eq_true rfl⟩)
  rw [List.eq_replicate_of_mem hall] at hnodup ⊢
  rw [show (l.messages.filter fun x => x.raw = m.raw).length = 1 from
    Nat.le_antisymm (List.nodup_replicate.mp hnodup) hlength]
  rfl

/-- Whether a call has stored a message with a content, by its result. -/
def stores (raw : Bytes) : (c : Call) × c.Result → Bool
  | ⟨.insert m, .ok .stored⟩ => m.raw = raw
  | _ => false

theorem stores_iff {raw : Bytes} {x : (c : Call) × c.Result} :
    stores raw x ↔ ∃ m, m.raw = raw ∧ x = ⟨.insert m, .ok .stored⟩ := by
  refine ⟨fun h => ?_, ?_⟩
  · obtain ⟨c, r⟩ := x
    unfold stores at h
    split at h
    · next m heq => exact ⟨m, of_decide_eq_true h, heq⟩
    · exact absurd h (by simp)
  · rintro ⟨m, hm, rfl⟩
    exact decide_eq_true hm

/-- What a party has stored is found among its tries to store something. -/
theorem countP_stores (raw : Bytes) (h : List ((c : Call) × c.Result)) :
    h.countP (stores raw) = (insertions h).countP (stores raw) := by
  rw [insertions, List.countP_filter]
  refine List.countP_congr fun x _ => ?_
  rw [Bool.and_eq_true]
  refine ⟨fun hx => ⟨hx, ?_⟩, And.left⟩
  obtain ⟨m, -, rfl⟩ := stores_iff.mp hx
  rfl

end Store

/-- Whether a content has gone from the store with a call. -/
def Deed.removes {ι : Type} (k : Medium) (raw : Bytes) (x : Deed Call k.State ι) : Bool :=
  match x.call with
  | .delete id => id = MessageId.ofContent raw && (k.ledger x.before).holds raw
  | _ => false

/-- Whether a session has come to its end with its message stored. -/
def Session.hasResolved : Option (Except Submission.Error String × Session) → Bool
  | some (_, .resolved _) => true
  | _ => false

namespace Submission

section Counting

variable {ι κ : Type} {k : Medium} {octets : ι → Bytes} {lasting : Prop}
  {x : Deed Call k.State κ}

/-- A message that is stored has a content that was not there. -/
theorem holds_eq_false (hx : (sharing k octets lasting).Inv x.before) {m : NewMessage} {i : ι}
    (hm : m.Carries (octets i)) (hid : (k.ledger x.before).message? m.id = none) :
    (k.ledger x.before).holds m.raw = false := by
  rw [Bool.eq_false_iff, ne_eq, Ledger.holds_iff]
  rintro ⟨y, hy, hraw⟩
  refine Ledger.message?_eq_none.mp hid y hy ?_
  rw [(hx.2 y hy).1, hraw, hm.raw, hm.id]

/-- **A content comes in with the call that stores it.** -/
theorem enters_holds (hx : (sharing k octets lasting).Inv x.before)
    (hcall : (sharing k octets lasting).Allowed x.call) (raw : Bytes) :
    x.enters k.backend (fun s => (k.ledger s).holds raw) =
      Store.stores raw (x.entry k.backend) := by
  have hentry : x.entry k.backend = Rules.entry k.rules (k.ledger x.before) x.call :=
    congrArg (Sigma.mk x.call) (hx.1.ask_eq x.call)
  have hafter := hx.1.ledger_step x.call
  rw [Deed.enters, Deed.after, hentry, hafter]
  obtain ⟨hnot, heq⟩ | ⟨m, hm, hid, heq⟩ | ⟨id, hid, heq⟩ :=
    k.rules.messages_step (k.ledger x.before) x.call
  · rcases hstores : Store.stores raw (Rules.entry k.rules (k.ledger x.before) x.call) with _ | _
    · rw [Ledger.holds, Ledger.holds, heq, Bool.not_and_self]
    · obtain ⟨m, -, hm⟩ := Store.stores_iff.mp hstores
      exact absurd hm (hnot m)
  · rw [hm]
    obtain ⟨i, hi⟩ : ∃ i, m.Carries (octets i) := by
      rw [show x.call = .insert m from congrArg Sigma.fst hm] at hcall
      exact hcall
    have hnew := holds_eq_false hx hi hid
    rw [Ledger.holds] at hnew ⊢
    rw [Ledger.holds, heq, List.any_append]
    rcases eq_or_ne m.raw raw with rfl | hne
    · simp [hnew, Store.stores, NewMessage.stored]
    · simp [Store.stores, NewMessage.stored, hne]
  · -- what is there afterwards has been there before
    rw [hid] at heq ⊢
    change (!_ && _) = false
    rw [Bool.and_eq_false_iff, Bool.not_eq_false', or_iff_not_imp_right, Bool.not_eq_false,
      Ledger.holds_iff, Ledger.holds_iff, heq]
    rintro ⟨m, hm, hraw⟩
    exact ⟨m, (List.mem_filter.mp hm).1, hraw⟩

/-- **A content goes with the call that deletes its id.** -/
theorem leaves_holds (hx : (sharing k octets lasting).Inv x.before) (raw : Bytes) :
    x.leaves k.backend (fun s => (k.ledger s).holds raw) = x.removes k raw := by
  have hafter := hx.1.ledger_step x.call
  rw [Deed.leaves, Deed.after, hafter, Deed.removes]
  by_cases hdelete : ∃ id, x.call = .delete id
  · obtain ⟨id, hid⟩ := hdelete
    have hstrike : (k.rules.server.step x.call (k.ledger x.before)).state =
        (k.ledger x.before).strike id := by
      rw [hid]
      rfl
    simp only [hid]
    rw [hstrike, Ledger.holds_strike fun m hm => (hx.2 m hm).1]
    cases (k.ledger x.before).holds raw <;> simp
  · rw [not_exists] at hdelete
    have hlasts := k.rules.messages_isPrefix (k.ledger x.before) hdelete
    split
    · next id hid => exact absurd hid (hdelete id)
    · rw [Bool.and_eq_false_iff, Bool.not_eq_false', or_iff_not_imp_left, Bool.not_eq_false]
      exact fun h => Ledger.holds_of_isPrefix h hlasts

end Counting

/-- What a submission has stored, by what it has been told. -/
theorem Progress.countP_stores {raw' : Bytes} {v : Option (Except Error String)}
    {h : List ((c : Call) × c.Result)} (hp : Progress raw' v h) (raw : Bytes) :
    h.countP (Store.stores raw) = if raw' = raw ∧ v.any Except.isOk then 1 else 0 := by
  rw [Store.countP_stores]
  cases hp with
  | registering hh => simp [hh]
  | comparing hm hh => simp [hh, Store.stores]
  | stored hm hh => simp [hh, Store.stores, hm.raw, Except.isOk, Except.toBool]
  | resubmitted hm hh => simp [hh, Store.stores, Except.isOk, Except.toBool]

end Submission

namespace Session

open Submission

variable {k : Medium} {lasting : Prop} {claimed : Sender} {envelope : Envelope} {d : Delivery}
  {h : List ((c : Call) × c.Result)} {s : k.State}

/-- **A session that is done** has stored its message and is told so, or has found it in the
way and is told that. -/
theorem Promised.cases {x : Except Submission.Error String × Session}
    (hp : Promised k lasting claimed envelope d (some x) h s) :
    (x = (.ok (MessageId.ofContent d.octets), .resolved (MessageId.ofContent d.octets)) ∧
      ∃ m, Store.insertions h = [⟨.insert m, .ok .stored⟩]) ∨
    (x = (.error (.resubmission (MessageId.ofContent d.octets)), .rejected) ∧
      ∃ m, Store.insertions h = [⟨.insert m, .ok .duplicate⟩]) := by
  obtain ⟨r, t⟩ := x
  obtain rfl : t = ofVerdict r := hp.session _ rfl
  have hprogress := hp.submission.progress
  simp only [Option.map_some] at hprogress
  cases hprogress with
  | stored hm hh => exact .inl ⟨rfl, _, hh⟩
  | resubmitted hm hh => exact .inr ⟨rfl, _, hh⟩

/-- What a session has stored, by what it has come to. -/
theorem Promised.countP_stores {v : Option (Except Submission.Error String × Session)}
    (hp : Promised k lasting claimed envelope d v h s) (raw : Bytes) :
    h.countP (Store.stores raw) = if d.octets = raw ∧ hasResolved v then 1 else 0 := by
  have hresolved : hasResolved v = (v.map Prod.fst).any Except.isOk := by
    rcases v with _ | x
    · rfl
    · obtain ⟨rfl, -⟩ | ⟨rfl, -⟩ := hp.cases <;> rfl
  rw [hp.submission.progress.countP_stores, hresolved]

end Session

namespace Submission

/-! ### What is told and what is stored -/

variable {ι : Type} [DecidableEq ι]

/-- **What sessions come to that submit at the same time**, after some moves. -/
structure Raced [Fintype ι] (k : Medium) (d : ι → Delivery) (ms : List (Move Call ι))
    (r : List (Deed Call k.State ι) ×
      Crowd Call Call.Result k.State ι (Except Error String × Session)) : Prop where
  /-- Whoever is done has stored its message or is told that it is there already. -/
  ended : ∀ i x, (r.2.programs i).value? = some x →
    x = (.ok (MessageId.ofContent (d i).octets), .resolved (MessageId.ofContent (d i).octets)) ∨
      x = (.error (.resubmission (MessageId.ofContent (d i).octets)), .rejected)
  /-- Whoever has found its message in the way is told that it is there already, even if it
  has been deleted since. -/
  beaten : ∀ i m x, ⟨.insert m, .ok .duplicate⟩ ∈ Deed.past k.backend i r.1 →
    (r.2.programs i).value? = some x →
      x = (.error (.resubmission (MessageId.ofContent (d i).octets)), .rejected)
  /-- Whoever has had five turns is done. -/
  done : ∀ i, 5 ≤ ms.countP (Move.isTurnOf i) → (r.2.programs i).value?.isSome
  /-- The sessions that have stored a content are as many as the deletes that have taken it
  away, and one more if it is there. -/
  balance : ∀ raw,
    (Finset.univ.filter fun i =>
      (d i).octets = raw ∧ Session.hasResolved (r.2.programs i).value?).card =
        r.1.countP (Deed.removes k raw) + ((k.ledger r.2.store).holds raw).toNat

/-- **What is settled if nothing is deleted**, after some moves. -/
structure Settled (k : Medium) (claimed : ι → Sender) (envelope : ι → Envelope)
    (d : ι → Delivery)
    (r : List (Deed Call k.State ι) ×
      Crowd Call Call.Result k.State ι (Except Error String × Session)) : Prop where
  /-- Of those who have submitted one content, if all of them are done, one has stored its
  message, and the others are told that it is there already. This message is the only one
  with the content, and it is from the sender whom the session has claimed. -/
  winner : ∀ i, (∀ j, (d j).octets = (d i).octets → (r.2.programs j).value?.isSome) →
    ∃ j, (d j).octets = (d i).octets ∧
      (r.2.programs j).value? = some (.ok (MessageId.ofContent (d i).octets),
        .resolved (MessageId.ofContent (d i).octets)) ∧
      (∀ j', (d j').octets = (d i).octets → j' ≠ j → (r.2.programs j').value? =
        some (.error (.resubmission (MessageId.ofContent (d i).octets)), .rejected)) ∧
      ∃ a m, (k.ledger r.2.store).messages.filter (fun m => m.raw = (d i).octets) = [m] ∧
        k.ask (.addressByEmail (normalizeEmail (claimed j).email)) r.2.store = .ok (some a) ∧
        IsMessageOf (d j) (envelope j) a m
  /-- The store has nothing but what has been submitted. -/
  submitted : ∀ m ∈ (k.ledger r.2.store).messages, ∃ i, m.raw = (d i).octets

/-- All sessions, each with the data before it. -/
def submitters {σ : Type} (sender : ι → String) (d : ι → Delivery) (s : σ) :
    Crowd Call Call.Result σ ι (Except Error String × Session) :=
  ⟨s, fun i => (Session.receivingData (sender i)).receive (d i)⟩

/-! ### Sessions that keep their promise -/

/-- **A run in which all have kept to the discipline**, and the sessions their promises. -/
structure Kept (k : Medium) (lasting : Prop) (claimed : ι → Sender) (envelope : ι → Envelope)
    (d : ι → Delivery)
    (r : List (Deed Call k.State ι) ×
      Crowd Call Call.Result k.State ι (Except Error String × Session)) : Prop where
  deeds : ∀ x ∈ r.1, (sharing k (fun i => (d i).octets) lasting).Allowed x.call ∧
    (sharing k (fun i => (d i).octets) lasting).Inv x.before
  inv : (sharing k (fun i => (d i).octets) lasting).Inv r.2.store
  promised : ∀ i, Session.Promised k lasting (claimed i) (envelope i) (d i)
    (r.2.programs i).value? (Deed.past k.backend i r.1) r.2.store

namespace Kept

variable {k : Medium} {lasting : Prop} {claimed : ι → Sender} {envelope : ι → Envelope}
  {d : ι → Delivery} {ms : List (Move Call ι)}
  {w : Crowd Call Call.Result k.State ι (Except Error String × Session)}
  {r : List (Deed Call k.State ι) ×
    Crowd Call Call.Result k.State ι (Except Error String × Session)}

/-- What a session that is done has promised. -/
theorem promised_some (h : Kept k lasting claimed envelope d r) {i : ι}
    {x : Except Error String × Session} (hx : (r.2.programs i).value? = some x) :
    Session.Promised k lasting (claimed i) (envelope i) (d i) (some x)
      (Deed.past k.backend i r.1) r.2.store := by
  have hp := h.promised i
  rwa [hx] at hp

/-- **The sessions that have stored a content** are as many as the deletes that have taken it
away, and one more if it is there. -/
theorem balance [Fintype ι] (h : Kept k lasting claimed envelope d (Crowd.run k.backend ms w))
    (hw : (k.ledger w.store).messages = []) (hms : ∀ m, Move.other (.insert m) ∉ ms)
    (raw : Bytes) :
    (Finset.univ.filter fun i => (d i).octets = raw ∧
      Session.hasResolved ((Crowd.run k.backend ms w).2.programs i).value?).card =
      (Crowd.run k.backend ms w).1.countP (Deed.removes k raw) +
        ((k.ledger (Crowd.run k.backend ms w).2.store).holds raw).toNat := by
  have hcount := Crowd.count_enters (b := k.backend) (w := w) (fun s => (k.ledger s).holds raw) ms
  have henters : (Crowd.run k.backend ms w).1.countP
      (Deed.enters k.backend fun s => (k.ledger s).holds raw) =
      (Crowd.run k.backend ms w).1.countP fun x => Store.stores raw (x.entry k.backend) :=
    List.countP_congr fun x hx => by rw [enters_holds (h.deeds x hx).2 (h.deeds x hx).1]
  have hleaves : (Crowd.run k.backend ms w).1.countP
      (Deed.leaves k.backend fun s => (k.ledger s).holds raw) =
      (Crowd.run k.backend ms w).1.countP (Deed.removes k raw) :=
    List.countP_congr fun x hx => by rw [leaves_holds (h.deeds x hx).2]
  -- nobody but a session stores a message
  have hsessions : ∀ x ∈ (Crowd.run k.backend ms w).1,
      Store.stores raw (x.entry k.backend) → x.party.isSome := by
    intro x hx hstores
    obtain ⟨m, -, hm⟩ := Store.stores_iff.mp hstores
    rw [← Option.ne_none_iff_isSome]
    intro hnone
    refine hms m ?_
    rw [← show x.call = .insert m from congrArg Sigma.fst hm]
    exact Crowd.other_mem_of_party hx hnone
  have hone : ∀ i, ((Crowd.run k.backend ms w).1.filter fun x => x.party = some i).countP
      (fun x => Store.stores raw (x.entry k.backend)) =
        if (d i).octets = raw ∧
          Session.hasResolved ((Crowd.run k.backend ms w).2.programs i).value? then 1 else 0 := by
    intro i
    rw [← (h.promised i).countP_stores raw, Deed.past, List.countP_map]
    rfl
  have hempty : (k.ledger w.store).holds raw = false := by rw [Ledger.holds, hw]; rfl
  rw [henters, hleaves, hempty, Bool.toNat_false, Nat.add_zero,
    ← Deed.sum_count_party _ hsessions] at hcount
  simp only [hone] at hcount
  rw [Finset.card_filter, hcount]

/-- **Sessions that keep their promise are told what they should be told.** -/
theorem raced [Fintype ι] (h : Kept k lasting claimed envelope d (Crowd.run k.backend ms w))
    (hw : (k.ledger w.store).messages = []) (hms : ∀ m, Move.other (.insert m) ∉ ms) :
    Raced k d ms (Crowd.run k.backend ms w) where
  balance := h.balance hw hms
  ended i x hx := (h.promised_some hx).cases.imp And.left And.left
  beaten i m x hm hx := by
    obtain ⟨rfl, m', hm'⟩ | ⟨hverdict, -⟩ := (h.promised_some hx).cases
    · -- the message has been stored, so it has not been in the way
      have hmem : ⟨.insert m, .ok .duplicate⟩ ∈
          Store.insertions (Deed.past k.backend i (Crowd.run k.backend ms w).1) :=
        List.mem_filter.mpr ⟨hm, rfl⟩
      rw [hm', List.mem_singleton] at hmem
      cases hmem
    · exact hverdict
  done i hturns := by
    by_contra hnone
    rw [Option.not_isSome_iff_eq_none] at hnone
    have hlength := (h.promised i).submission.unfinished (by rw [hnone]; rfl)
    rw [Crowd.length_past hnone] at hlength
    omega

/-- If messages last, none is taken away. -/
theorem countP_removes (h : Kept k lasting claimed envelope d r) (hlasting : lasting)
    (raw : Bytes) : r.1.countP (Deed.removes k raw) = 0 := by
  refine List.countP_eq_zero.mpr fun x hx hremoves => ?_
  rw [Deed.removes] at hremoves
  split at hremoves
  · next id hid =>
    have hallowed := (h.deeds x hx).1
    rw [hid] at hallowed
    exact hallowed hlasting
  · exact absurd hremoves (by simp)

/-- If messages last, the content of a session that is done is there, whichever of the two
the session has been told. -/
theorem holds (h : Kept k lasting claimed envelope d r) (hlasting : lasting) {i : ι}
    {x : Except Error String × Session} (hx : (r.2.programs i).value? = some x) :
    (k.ledger r.2.store).holds (d i).octets := by
  have hp := h.promised_some hx
  rw [Ledger.holds_iff]
  obtain ⟨rfl, -⟩ | ⟨rfl, -⟩ := hp.cases
  · obtain ⟨a, m, hm, -, hof⟩ := hp.submission.stored hlasting _ rfl
    exact ⟨m, hm, hof.raw⟩
  · exact hp.submission.resubmitted hlasting _ rfl

/-- **If messages last, then of the sessions with one content one wins.** -/
theorem settled [Fintype ι] (h : Kept k lasting claimed envelope d r) (hlasting : lasting)
    (hraced : Raced k d ms r) : Settled k claimed envelope d r where
  submitted m hm := (h.inv.2 m hm).2
  winner i hdone := by
    obtain ⟨x, hx⟩ := Option.isSome_iff_exists.mp (hdone i rfl)
    have hcard := hraced.balance (d i).octets
    rw [h.countP_removes hlasting, h.holds hlasting hx] at hcard
    obtain ⟨j, hj⟩ := Finset.card_eq_one.mp hcard
    have hone : ∀ j', (d j').octets = (d i).octets ∧
        Session.hasResolved (r.2.programs j').value? ↔ j' = j := by
      intro j'
      have := Finset.ext_iff.mp hj j'
      simpa using this
    obtain ⟨hoctets, hresolved⟩ := (hone j).mpr rfl
    obtain ⟨y, hy⟩ := Option.isSome_iff_exists.mp (hdone j hoctets)
    have hp := h.promised_some hy
    rw [hy] at hresolved
    obtain ⟨rfl, -⟩ | ⟨rfl, -⟩ := hp.cases
    · obtain ⟨a, m, hm, ha, hof⟩ := hp.submission.stored hlasting _ rfl
      refine ⟨j, hoctets, by rw [hy, hoctets], fun j' hoctets' hne => ?_, a, m, ?_, ?_, hof⟩
      · obtain ⟨y', hy'⟩ := Option.isSome_iff_exists.mp (hdone j' hoctets')
        obtain rfl | rfl := hraced.ended j' y' hy'
        · refine absurd ((hone j').mp ⟨hoctets', ?_⟩) hne
          rw [hy']
          rfl
        · rw [hy', hoctets']
      · rw [← hof.raw.trans hoctets]
        exact h.inv.1.sound.filter_raw (fun m hm => (h.inv.2 m hm).1) hm
      · exact (h.inv.1.ask_eq _).trans (congrArg Except.ok ha)
    · exact absurd hresolved (by simp [Session.hasResolved])

end Kept

/-- **The race of submissions.** Any number of sessions submit messages that can be read, on
an empty store of either kind, in any order of their calls, while others make any calls but
the storing of a message. No two different contents that are submitted have one digest. Then
what the sessions are told is as it should be, after all moves. And if nothing is deleted,
then for each content there is one session that has stored it, and what is stored stays as it
is. -/
theorem simultaneous [Fintype ι] (k : Medium) {sender : ι → String} {d : ι → Delivery}
    {claimed : ι → Sender} {envelope : ι → Envelope}
    (hreading : ∀ i, reading (sender i) (d i) = .ok (claimed i, envelope i))
    (hdigest : ∀ i j, Sha256.digest (d i).octets = Sha256.digest (d j).octets →
      (d i).octets = (d j).octets)
    {ms : List (Move Call ι)} (hms : ∀ m, Move.other (.insert m) ∉ ms) :
    let w := submitters sender d k.empty
    Raced k d ms (Crowd.run k.backend ms w) ∧
      ((∀ id, Move.other (.delete id) ∉ ms) →
        Settled k claimed envelope d (Crowd.run k.backend ms w) ∧
        ∀ ns, ns <+: ms → (k.ledger (Crowd.run k.backend ns w).2.store).messages <+:
          (k.ledger (Crowd.run k.backend ms w).2.store).messages) := by
  intro w
  let lasting := ∀ id, Move.other (.delete id) ∉ ms
  let D := sharing k (fun i => (d i).octets) lasting
  have hids : Apart fun i => (d i).octets := fun i j h =>
    hdigest i j ((MessageId.ofContent_eq_iff _ _).mp h)
  have hempty : D.Inv k.empty := by
    refine ⟨k.valid_empty, ?_⟩
    rw [k.ledger_empty]
    simp
  have hstart : Crowd.Orderly D.toDiscipline
      (fun i => Session.Promised k lasting (claimed i) (envelope i) (d i)) (fun _ => []) w :=
    ⟨hempty, fun i => Session.keeps_receive hids rfl (hreading i) hempty⟩
  have hallowed : ∀ c, Move.other c ∈ ms → D.Allowed c := by
    intro c hc
    cases c with
    | insert m => exact absurd hc (hms m)
    | delete id => exact fun hl => hl id hc
    | _ => trivial
  obtain ⟨horderly, -, hdeeds⟩ := Crowd.run_keeps hstart hallowed
  have hkept : Kept k lasting claimed envelope d (Crowd.run k.backend ms w) :=
    ⟨hdeeds, horderly.inv, Crowd.promise_run hstart hallowed⟩
  have hraced : Raced k d ms (Crowd.run k.backend ms w) :=
    hkept.raced (by rw [show w.store = k.empty from rfl, k.ledger_empty]) hms
  refine ⟨hraced, fun hl => ⟨hkept.settled hl hraced, ?_⟩⟩
  rintro ns ⟨ns', rfl⟩
  have hfirst := (Crowd.run_keeps hstart fun c hc => hallowed c (List.mem_append_left _ hc)).1
  rw [Crowd.run_append]
  exact (Crowd.run_keeps hfirst fun c hc => hallowed c (List.mem_append_right _ hc)).2.1.2 hl

/-- Two of three sessions submit one content from different senders. The one that has looked
first is the second to store it, and finds it in the way. -/
theorem simultaneous_three_sessions :
    let sender : Fin 3 → String := fun i => if i = 0 then "Ann <A@b>" else "e@f"
    let d : Fin 3 → Delivery := fun i =>
      ⟨(if i = 2 then "To: c\n\ng" else "To: c\n\nd").toUTF8.toList, none, 0⟩
    let ms := [.turn 0, .turn 1, .turn 2, .turn 1, .turn 0, .turn 1, .turn 2, .turn 0, .turn 2,
      .turn 2, .turn 0]
    let r := Crowd.run Medium.database.backend ms (submitters sender d Medium.database.empty)
    (∀ i, (r.2.programs i).value?.isSome ∧
      Session.hasResolved (r.2.programs i).value? = decide (i ≠ 0)) ∧
      Raced .database d ms r ∧ ∃ claimed envelope, Settled .database claimed envelope d r := by
  intro sender d ms r
  have hread : ∀ i, (reading (sender i) (d i)).isOk := by decide +kernel
  have hok : ∀ i, ∃ claimed envelope, reading (sender i) (d i) = .ok (claimed, envelope) := by
    intro i
    have := hread i
    rcases hi : reading (sender i) (d i) with e | ⟨claimed, envelope⟩
    · rw [hi] at this
      exact absurd this (by simp [Except.isOk, Except.toBool])
    · exact ⟨claimed, envelope, rfl⟩
  choose claimed envelope hreading using hok
  obtain ⟨hraced, hsettled⟩ :=
    simultaneous .database hreading (by decide +kernel)
      (show ∀ m, Move.other (.insert m) ∉ ms by simp [ms])
  exact ⟨by decide +kernel, hraced, claimed, envelope, (hsettled (by simp [ms])).1⟩

end Submission

end Maildrop
