import Maildrop.Proofs.Email
import Maildrop.Proofs.Service.Alike

/-!
# The two kinds of stores agree

A store in memory and a store in a database keep their tables in different ways and have
different rules. What they tell their users apart by is little: which emails are the same,
in what words a message from an unknown sender is refused, and when messages came. Where
all emails that reach the store are plain (`Maildrop.Event.Plain`), as those are that come
through the registry, the first makes no difference, and the other two are not looked at.

So two ledgers may be *twins* (`Maildrop.Store.Twins`): the same addresses and, up to the
instants, the same messages. Twins answer every plain call alike and stay twins
(`Maildrop.Store.Twins.step`). It follows that two services to which the same happens,
one on a store of either kind, give replies that look the same
(`Maildrop.Service.replies_agree`).
-/

namespace Maildrop

open Store (Action Call Failure Ledger Medium Rules Server)

/-! ### Plain calls -/

/-- The emails of a call are plain. -/
def Store.Call.Plain : Call → Prop
  | .addressByEmail email => PlainEmail email
  | .createAddress email _ => PlainEmail email
  | _ => True

/-- **Every email that an event hands to a store is plain.** -/
abbrev Event.Plain (e : Event) : Prop := e.Admitted Call.Plain

theorem Store.permits_plain : Store.Permits Call.Plain where
  address _ := trivial
  message _ := trivial
  raw _ := trivial
  delete _ := trivial
  previews := trivial
  insert _ _ _ _ _ := trivial

/-- A sender's text without a zero character brings plain emails only. -/
theorem Store.admitsSender_plain {sender : String} (h : Char.ofNat 0 ∉ sender.toList) :
    Store.AdmitsSender Call.Plain sender := fun _ hclaimed =>
  ⟨Sender.plainEmail_of_parse? h hclaimed, Sender.plainEmail_of_parse? h hclaimed⟩

/-- The rules of any two stores agree about plain emails. -/
theorem Store.Medium.same_eq (k k' : Medium) {x y : String} (hx : PlainEmail x)
    (hy : PlainEmail y) : k.rules.same x y = k'.rules.same x y :=
  Bool.eq_iff_iff.mpr ((k.same_iff hx hy).trans (k'.same_iff hx hy).symm)

/-! ### Twins -/

namespace Store

/-- **Ledgers that are the same up to instants**, and whose emails are plain. -/
structure Twins (l l' : Ledger) : Prop where
  addresses : l.addresses = l'.addresses
  messages : l.messages.map Message.unstamped = l'.messages.map Message.unstamped
  plain : ∀ a ∈ l.addresses, PlainEmail a.email

/-- What is found under an id, up to its instant. -/
theorem Ledger.unstamped_message? (l : Ledger) (id : String) :
    (l.message? id).map Message.unstamped =
      (l.messages.map Message.unstamped).find? fun m => m.id = id := by
  rw [List.find?_map]
  rfl

/-- A listing, up to instants. -/
theorem Ledger.unstamped_previews (l : Ledger) :
    l.previews.map Preview.unstamped =
      (l.messages.map Message.unstamped).filterMap l.preview? := by
  rw [previews, List.map_filterMap, List.filterMap_map]
  refine List.filterMap_congr fun m _ => ?_
  change (l.preview? m).map _ = (l.address? m.senderId).map m.unstamped.preview
  rw [preview?, Option.map_map]
  rfl

namespace Twins

variable {l l' : Ledger} {r r' : Rules}

theorem address?_eq (h : Twins l l') (id : Int) : l.address? id = l'.address? id := by
  rw [Ledger.address?, h.addresses]
  rfl

theorem message?_eq (h : Twins l l') (id : String) :
    (l.message? id).map Message.unstamped = (l'.message? id).map Message.unstamped := by
  rw [Ledger.unstamped_message?, h.messages, ← Ledger.unstamped_message?]

theorem isSome_message? (h : Twins l l') (id : String) :
    (l.message? id).isSome = (l'.message? id).isSome := by
  have := congrArg Option.isSome (h.message?_eq id)
  rwa [Option.isSome_map, Option.isSome_map] at this

theorem raw_eq (h : Twins l l') (id : String) :
    (l.message? id).map Message.raw = (l'.message? id).map Message.raw := by
  have := congrArg (Option.map Message.raw) (h.message?_eq id)
  rwa [Option.map_map, Option.map_map] at this

theorem previews_eq (h : Twins l l') :
    l.previews.map Preview.unstamped = l'.previews.map Preview.unstamped := by
  have hpreview : l.preview? = l'.preview? := by
    funext m
    rw [Ledger.preview?, Ledger.preview?, h.address?_eq]
  rw [Ledger.unstamped_previews, h.messages, hpreview, ← Ledger.unstamped_previews]

theorem length_messages (h : Twins l l') : l.messages.length = l'.messages.length := by
  simpa using congrArg List.length h.messages

/-- Rules that agree about plain emails find the same address. -/
theorem addressByEmail?_eq (h : Twins l l')
    (hr : ∀ x y, PlainEmail x → PlainEmail y → r.same x y = r'.same x y) {email : String}
    (he : PlainEmail email) : r.addressByEmail? l email = r'.addressByEmail? l' email := by
  rw [Rules.addressByEmail?, Rules.addressByEmail?, ← h.addresses]
  have hplain := h.plain
  generalize l.addresses = as at hplain
  induction as with
  | nil => rfl
  | cons a as ih =>
    rw [List.find?_cons, List.find?_cons, hr _ _ (hplain a List.mem_cons_self) he,
      ih fun x hx => hplain x (List.mem_cons_of_mem _ hx)]

theorem addAddress (h : Twins l l') {a : Address} (ha : PlainEmail a.email) :
    Twins (l.addAddress a) (l'.addAddress a) where
  addresses := congrArg (· ++ [a]) h.addresses
  messages := h.messages
  plain b hb := by
    rcases List.mem_append.mp hb with hb | hb
    · exact h.plain b hb
    · rwa [List.mem_singleton.mp hb]

theorem addMessage (h : Twins l l') {m m' : Message} (hm : m.unstamped = m'.unstamped) :
    Twins (l.addMessage m) (l'.addMessage m') where
  addresses := h.addresses
  messages := by
    rw [Ledger.addMessage, Ledger.addMessage, List.map_append, List.map_append, h.messages]
    exact congrArg (fun x => _ ++ [x]) hm
  plain := h.plain

theorem strike (h : Twins l l') (id : String) : Twins (l.strike id) (l'.strike id) where
  addresses := h.addresses
  messages := by
    have hfilter : ∀ ms : List Message,
        (ms.filter fun m => m.id ≠ id).map Message.unstamped =
          (ms.map Message.unstamped).filter fun m => m.id ≠ id := fun ms => by
      rw [List.filter_map]
      rfl
    rw [Ledger.strike, Ledger.strike, hfilter, h.messages, ← hfilter]
  plain := h.plain

/-- Twins make an address alike. -/
theorem create (h : Twins l l')
    (hr : ∀ x y, PlainEmail x → PlainEmail y → r.same x y = r'.same x y) {email : String}
    (he : PlainEmail email) (name : Option String) :
    (r.create l email name).1 = (r'.create l' email name).1 ∧
      Twins (r.create l email name).2 (r'.create l' email name).2 := by
  have hnew : l'.newAddress email name = l.newAddress email name := by
    rw [Ledger.newAddress, Ledger.newAddress, h.addresses]
  rw [Rules.create, Rules.create, ← h.addressByEmail?_eq hr he, hnew]
  split
  · exact ⟨rfl, h⟩
  · exact ⟨rfl, h.addAddress he⟩

/-- Twins store a message alike, though at other instants, or both refuse it. -/
theorem insert (h : Twins l l') (m : NewMessage) (now now' : Instant) :
    look Failure.blank id (r.insert l { m with receivedAt := now }).1 =
        look Failure.blank id (r'.insert l' { m with receivedAt := now' }).1 ∧
      Twins (r.insert l { m with receivedAt := now }).2
        (r'.insert l' { m with receivedAt := now' }).2 := by
  rw [Rules.insert, Rules.insert]
  simp only [h.isSome_message?, h.address?_eq]
  split
  · exact ⟨rfl, h⟩
  · split
    · exact ⟨rfl, h⟩
    · exact ⟨rfl, h.addMessage rfl⟩

/-- **Twins answer every plain call alike, and stay twins**, if their rules agree about plain
emails. -/
theorem step (h : Twins l l')
    (hr : ∀ x y, PlainEmail x → PlainEmail y → r.same x y = r'.same x y) {c : Call}
    (hc : c.Plain) (now now' : Instant) :
    c.look ((r.server.stamping now).step c l).result =
        c.look ((r'.server.stamping now').step c l').result ∧
      Twins ((r.server.stamping now).step c l).state
        ((r'.server.stamping now').step c l').state := by
  cases c with
  | addressByEmail email => exact ⟨congrArg Except.ok (h.addressByEmail?_eq hr hc), h⟩
  | address id => exact ⟨congrArg Except.ok (h.address?_eq id), h⟩
  | createAddress email name =>
    obtain ⟨hresult, hstate⟩ := h.create hr hc name
    exact ⟨congrArg Except.ok hresult, hstate⟩
  | insert m => exact h.insert m now now'
  | message id => exact ⟨congrArg Except.ok (h.message?_eq id), h⟩
  | raw id => exact ⟨congrArg Except.ok (h.raw_eq id), h⟩
  | has id => exact ⟨congrArg Except.ok (h.isSome_message? id), h⟩
  | delete id => exact ⟨rfl, h.strike id⟩
  | previews => exact ⟨congrArg Except.ok h.previews_eq, h⟩
  | count => exact ⟨congrArg Except.ok h.length_messages, h⟩

end Twins

end Store

/-! ### Agreement -/

/-- States of stores of any two kinds whose ledgers are twins. -/
structure Store.Medium.Agree (k k' : Medium) (s : k.State) (t : k'.State) : Prop where
  valid : k.Valid s
  valid' : k'.Valid t
  twins : Store.Twins (k.ledger s) (k'.ledger t)

/-- **Stores whose ledgers are twins answer every plain call alike**, at whatever
instants. -/
theorem Store.Medium.Agree.step {k k' : Medium} {s : k.State} {t : k'.State}
    (h : k.Agree k' s t) {c : Call} (hc : c.Plain) (now now' : Instant) :
    c.look ((k.backend.stamping now).step c s).result =
        c.look ((k'.backend.stamping now').step c t).result ∧
      k.Agree k' ((k.backend.stamping now).step c s).state
        ((k'.backend.stamping now').step c t).state := by
  have hs := k.refines.stamping now
  have ht := k'.refines.stamping now'
  obtain ⟨hvalid, hledger⟩ := hs.state c s _ ⟨h.valid, rfl⟩
  obtain ⟨hvalid', hledger'⟩ := ht.state c t _ ⟨h.valid', rfl⟩
  obtain ⟨hlook, htwins⟩ := h.twins.step (fun _ _ => k.same_eq k') hc now now'
  constructor
  · rw [hs.result c s _ ⟨h.valid, rfl⟩, ht.result c t _ ⟨h.valid', rfl⟩]
    exact hlook
  · refine ⟨hvalid, hvalid', ?_⟩
    rw [hledger, hledger']
    exact htwins

theorem Store.Medium.agree_empty (k k' : Medium) : k.Agree k' k.empty k'.empty where
  valid := k.valid_empty
  valid' := k'.valid_empty
  twins := by
    rw [k.ledger_empty, k'.ledger_empty]
    exact ⟨rfl, rfl, by simp⟩

/-- **A store in memory and a store in a database cannot be told apart** by anything that
hands them plain emails only: whatever happens to two services, one on an empty store of
either kind, and at whatever instants, the replies look the same one by one, and so do the
sessions afterwards. -/
theorem Service.replies_agree {es es' : List (Instant × Event)}
    (hes : es.map Prod.snd = es'.map Prod.snd) (he : ∀ x ∈ es, x.2.Plain) :
    (Medium.memory.serve es).1.map Reply.look = (Medium.database.serve es').1.map Reply.look ∧
      (Medium.memory.serve es).2.sessions = (Medium.database.serve es').2.sessions :=
  run_alike Store.permits_plain (I := Medium.memory.Agree Medium.database)
    (fun now now' _ _ _ hc h => h.step hc now now') hes he
    (Medium.agree_empty Medium.memory Medium.database) rfl fun _ => trivial

/-- An address is made, and then a session hears a sender with the same email. -/
theorem Service.replies_agree_hear :
    (Medium.memory.serve [(1, .call (.createAddress "a@b" none)), (2, .hear 0 "A@b")]).1.map
        Reply.look =
      (Medium.database.serve [(3, .call (.createAddress "a@b" none)), (3, .hear 0 "A@b")]).1.map
        Reply.look := by
  have hplain : PlainEmail "a@b" := ⟨by decide +kernel, by decide +kernel⟩
  have hsender : Store.AdmitsSender Call.Plain "A@b" := Store.admitsSender_plain (by decide)
  refine (Service.replies_agree rfl ?_).1
  simp only [List.forall_mem_cons, List.not_mem_nil, false_implies, implies_true, and_true]
  exact ⟨hplain, hsender⟩

end Maildrop
