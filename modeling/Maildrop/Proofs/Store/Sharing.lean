import Maildrop.Proofs.Crowd.Discipline
import Maildrop.Proofs.Store.Action
import Maildrop.Proofs.Store.Medium

/-!
# Sharing a store

What those can rely on who share a store with others. No call takes an address away, and a
message goes only if it is deleted (`Maildrop.Store.Rules.addresses_isPrefix`,
`Maildrop.Store.Rules.messages_isPrefix`). As the first address with an email is the one that
is found, an email leads to the same address ever after
(`Maildrop.Store.Rules.addressByEmail?_of_isPrefix`). A discipline of which this is true is a
way of *sharing* a store (`Maildrop.Store.Sharing`).

An action keeps a promise under a discipline if it does so after each of its calls, whether
the call has been answered or has failed (`Maildrop.Store.Action.keeps_ask_bind`).
-/

namespace Maildrop.Store

/-! ### What calls leave in a ledger -/

/-- Whether a call has made an address, by its result. -/
def makesAddress : (c : Call) × c.Result → Bool
  | ⟨.createAddress _ _, .ok (.created _)⟩ => true
  | _ => false

namespace Rules

variable {r : Rules} {l l' : Ledger}

/-- A call with its result on a ledger. -/
def entry (r : Rules) (l : Ledger) (c : Call) : (c : Call) × c.Result :=
  ⟨c, (r.server.step c l).result⟩

/-- **A call makes an address or leaves the addresses alone**, and its result tells which. -/
theorem addresses_step (r : Rules) (l : Ledger) (c : Call) :
    (makesAddress (entry r l c) = false ∧
      (r.server.step c l).state.addresses = l.addresses) ∨
    (makesAddress (entry r l c) = true ∧
      ∃ email name, c = .createAddress email name ∧
        (r.server.step c l).state.addresses = l.addresses ++ [l.newAddress email name]) := by
  cases c with
  | createAddress email name =>
    have hstep : r.server.step (.createAddress email name) l =
        ⟨.ok (r.create l email name).1, (r.create l email name).2, []⟩ := rfl
    obtain ⟨-, heq⟩ | ⟨-, heq⟩ := r.create_cases l email name
    · rw [entry, hstep, heq]
      exact .inr ⟨rfl, email, name, rfl, rfl⟩
    · rw [entry, hstep, heq]
      exact .inl ⟨rfl, rfl⟩
  | insert m =>
    refine .inl ⟨rfl, ?_⟩
    change (r.insert l m).2.addresses = l.addresses
    obtain ⟨-, -, heq⟩ | ⟨x, -, heq⟩ := r.insert_cases l m <;> rw [heq]
    rfl
  | _ => exact .inl ⟨rfl, rfl⟩

/-- **No call takes an address away.** -/
theorem addresses_isPrefix (r : Rules) (l : Ledger) (c : Call) :
    l.addresses <+: (r.server.step c l).state.addresses := by
  obtain ⟨-, heq⟩ | ⟨-, email, name, -, heq⟩ := r.addresses_step l c
  · rw [heq]
  · rw [heq]
    exact List.prefix_append ..

/-- **A call stores a message, deletes one, or leaves the messages alone**, and its result
tells which. -/
theorem messages_step (r : Rules) (l : Ledger) (c : Call) :
    ((∀ m, entry r l c ≠ ⟨.insert m, .ok .stored⟩) ∧
      (r.server.step c l).state.messages = l.messages) ∨
    (∃ m, entry r l c = ⟨.insert m, .ok .stored⟩ ∧ l.message? m.id = none ∧
      (r.server.step c l).state.messages = l.messages ++ [m.stored]) ∨
    ∃ id, c = .delete id ∧
      (r.server.step c l).state.messages = l.messages.filter fun m => m.id ≠ id := by
  cases c with
  | createAddress email name => exact .inl ⟨by simp [entry], r.messages_create l email name⟩
  | insert m =>
    have hstep : r.server.step (.insert m) l = ⟨(r.insert l m).1, (r.insert l m).2, []⟩ := rfl
    obtain ⟨hid, -, heq⟩ | ⟨x, hx, heq⟩ := r.insert_cases l m
    · rw [entry, hstep, heq]
      exact .inr (.inl ⟨m, rfl, hid, rfl⟩)
    · rw [entry, hstep, heq]
      exact .inl ⟨fun m' h => hx (by cases h; rfl), rfl⟩
  | delete id => exact .inr (.inr ⟨id, rfl, rfl⟩)
  | _ => exact .inl ⟨by simp [entry], rfl⟩

/-- **A message goes only if it is deleted.** -/
theorem messages_isPrefix (r : Rules) (l : Ledger) {c : Call} (hc : ∀ id, c ≠ .delete id) :
    l.messages <+: (r.server.step c l).state.messages := by
  obtain ⟨-, heq⟩ | ⟨m, -, -, heq⟩ | ⟨id, hid, -⟩ := r.messages_step l c
  · rw [heq]
  · rw [heq]
    exact List.prefix_append ..
  · exact absurd hid (hc id)

/-- An email that leads to an address does so ever after. -/
theorem addressByEmail?_of_isPrefix {email : String} {a : Address}
    (h : r.addressByEmail? l email = some a) (hl : l.addresses <+: l'.addresses) :
    r.addressByEmail? l' email = some a := by
  obtain ⟨new, hnew⟩ := hl
  rw [addressByEmail?] at h
  rw [addressByEmail?, ← hnew, List.find?_append, h]
  rfl

end Rules

/-! ### Disciplines of a store -/

/-- A call takes a valid store where it takes the ledger. -/
theorem Medium.Valid.ledger_step {k : Medium} {s : k.State} (h : k.Valid s) (c : Call) :
    k.ledger (k.backend.step c s).state = (k.rules.server.step c (k.ledger s)).state :=
  (k.refines.state c s _ ⟨h, rfl⟩).2

/-- **A way of sharing a store**: a discipline under which the store is valid at all times
and no address is taken away. -/
structure Sharing (k : Medium) extends Discipline k.backend where
  valid : ∀ {s}, Inv s → k.Valid s
  addresses : ∀ {s t}, Later s t → (k.ledger s).addresses <+: (k.ledger t).addresses

/-- An email that leads to an address does so ever after. -/
theorem Sharing.addressByEmail? {k : Medium} (D : Sharing k) {s t : k.State} {email : String}
    {a : Address} (h : k.rules.addressByEmail? (k.ledger s) email = some a) (hst : D.Later s t) :
    k.rules.addressByEmail? (k.ledger t) email = some a :=
  Rules.addressByEmail?_of_isPrefix h (D.addresses hst)

/-! ### Actions that keep a promise -/

namespace Action

variable {σ ε α : Type} {b : Server σ} {D : Discipline b}
  {P : Promise Call Call.Result σ (Except ε α)} {h : List ((c : Call) × c.Result)} {s : σ}

theorem keeps_pure {a : α} (hP : ∀ t, D.Inv t → D.Later s t → P (some (.ok a)) h t) :
    (pure a : Action ε α).run.Keeps D P h s := hP

theorem keeps_throw {e : ε} (hP : ∀ t, D.Inv t → D.Later s t → P (some (.error e)) h t) :
    (throw e : Action ε α).run.Keeps D P h s := hP

theorem keeps_record_bind {r : LogRecord} {f : Unit → Action ε α}
    (hf : (f ()).run.Keeps D P h s) : (record r >>= f).run.Keeps D P h s := hf

/-- **One action after the other**: the second keeps its promise after every value of the
first, and after an error it is true. -/
theorem keeps_bind {β : Type} {Q : Promise Call Call.Result σ (Except ε β)} {x : Action ε α}
    {f : α → Action ε β} (hx : x.run.Keeps D P h s) (hs : D.Inv s)
    (hnone : ∀ h t, P none h t → Q none h t)
    (herror : ∀ e h t, D.Inv t → P (some (.error e)) h t →
      ∀ u, D.Inv u → D.Later t u → Q (some (.error e)) h u)
    (hok : ∀ a h t, D.Inv t → P (some (.ok a)) h t → (f a).run.Keeps D Q h t) :
    (x >>= f).run.Keeps D Q h s := by
  rw [ExceptT.run_bind]
  refine hx.bind hs hnone ?_
  rintro (e | a) h t ht hP
  · exact herror e h t ht hP
  · exact hok a h t ht hP

/-- **An action that begins with a call** keeps a promise if the promise is true before the
call, if the rest of the action keeps it after an answer, and if it is true of the error
after a failure. -/
theorem keeps_ask_bind {c : Call} {onFailure : Failure → ε} {f : c.Answer → Action ε α}
    (hc : D.Allowed c) (hnone : ∀ t, D.Inv t → D.Later s t → P none h t)
    (hok : ∀ t a, D.Inv t → D.Later s t → (b.step c t).result = .ok a →
      (f a).run.Keeps D P (h ++ [⟨c, .ok a⟩]) (b.step c t).state)
    (herror : ∀ t e, D.Inv t → D.Later s t → (b.step c t).result = .error e →
      ∀ u, D.Inv u → D.Later (b.step c t).state u →
        P (some (.error (onFailure e))) (h ++ [⟨c, .error e⟩]) u) :
    (ask c onFailure >>= f).run.Keeps D P h s := by
  refine ⟨hc, fun t ht hst => ⟨hnone t ht hst, ?_⟩⟩
  rcases hresult : (b.step c t).result with e | a
  · exact herror t e ht hst hresult
  · exact hok t a ht hst hresult

end Action

/-- **A call that does not fail**: the action goes on with the answer that the ledger gives. -/
theorem Sharing.keeps_ask_bind {k : Medium} (D : Sharing k) {ε α : Type} {c : Call}
    {answer : Ledger → c.Answer} (hanswer : ∀ l, (k.rules.step c l).result = .ok (answer l))
    (hc : D.Allowed c) {onFailure : Failure → ε} {f : c.Answer → Action ε α}
    {P : Promise Call Call.Result k.State (Except ε α)} {h : List ((c : Call) × c.Result)}
    {s : k.State} (hnone : ∀ t, D.Inv t → D.Later s t → P none h t)
    (hnext : ∀ t, D.Inv t → D.Later s t →
      (f (answer (k.ledger t))).run.Keeps D.toDiscipline P
        (h ++ [⟨c, .ok (answer (k.ledger t))⟩]) (k.backend.step c t).state) :
    (Action.ask c onFailure >>= f).run.Keeps D.toDiscipline P h s := by
  have hresult : ∀ t, D.Inv t → (k.backend.step c t).result = .ok (answer (k.ledger t)) :=
    fun t ht => ((D.valid ht).ask_eq c).trans (hanswer _)
  refine Action.keeps_ask_bind hc hnone ?_ ?_
  · intro t a ht hst ha
    obtain rfl := Except.ok.inj ((hresult t ht).symm.trans ha)
    exact hnext t ht hst
  · intro t e ht _ he
    exact absurd ((hresult t ht).symm.trans he) (by simp)

end Maildrop.Store
