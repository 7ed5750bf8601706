import Maildrop.Proofs.Store.Sharing

/-!
# Stores whose calls may fail

A store on an unreliable line: each call is either answered by the store or fails on the
way, and a call that fails changes nothing. Which calls fail is given from outside, as a
list of what is to come (`Maildrop.Store.Server.unreliable`); when the list is at its end,
no call fails any more. A statement about all lists is one about failures at arbitrary
points.
-/

namespace Maildrop.Store

/-- **A store whose calls may fail.** The state holds besides, for each of the calls to
come, the failure that it meets, if it meets one. -/
def Server.unreliable {σ : Type} (b : Server σ) : Server (List (Option Failure) × σ) where
  step c s :=
    match s.1.head?.join with
    | some f => ⟨.error f, (s.1.tail, s.2), []⟩
    | none =>
      let o := b.step c s.2
      ⟨o.result, (s.1.tail, o.state), o.log⟩

variable {σ ι : Type} (b : Server σ)

/-- A call that meets no failure is answered by the store. -/
theorem Server.unreliable_step_of_none {faults : List (Option Failure)}
    (h : faults.head?.join = none) (c : Call) (s : σ) :
    b.unreliable.step c (faults, s) =
      ⟨(b.step c s).result, (faults.tail, (b.step c s).state), (b.step c s).log⟩ := by
  simp only [unreliable, h]

/-- A call that meets a failure changes nothing. -/
theorem Server.unreliable_step_of_some {faults : List (Option Failure)} {f : Failure}
    (h : faults.head?.join = some f) (c : Call) (s : σ) :
    b.unreliable.step c (faults, s) = ⟨.error f, (faults.tail, s), []⟩ := by
  simp only [unreliable, h]

/-- **A call fails and changes nothing, or is answered by the store.** -/
theorem Server.unreliable_cases (c : Call) (s : List (Option Failure) × σ) :
    (∃ f, (b.unreliable.step c s).result = .error f ∧ (b.unreliable.step c s).state.2 = s.2) ∨
    ((b.unreliable.step c s).result = (b.step c s.2).result ∧
      (b.unreliable.step c s).state.2 = (b.step c s.2).state) := by
  rcases hf : s.1.head?.join with _ | f
  · have hstep := b.unreliable_step_of_none hf c s.2
    exact .inr ⟨by rw [hstep], by rw [hstep]⟩
  · have hstep := b.unreliable_step_of_some hf c s.2
    exact .inl ⟨f, by rw [hstep], by rw [hstep]⟩

/-- What stands for a store does so on an unreliable line, where the same calls fail. -/
theorem Server.refines_unreliable {τ : Type} {b : Server σ} {b' : Server τ} {R : σ → τ → Prop}
    (h : Refines b b' R) :
    Refines b.unreliable b'.unreliable fun s t => s.1 = t.1 ∧ R s.2 t.2 where
  result c s t hst := by
    rw [unreliable, unreliable]
    simp only [hst.1]
    split
    · rfl
    · exact h.result c s.2 t.2 hst.2
  state c s t hst := by
    rw [unreliable, unreliable]
    simp only [hst.1]
    split
    · exact ⟨rfl, hst.2⟩
    · exact ⟨rfl, h.state c s.2 t.2 hst.2⟩

/-- **An action on an unreliable line has given up and changed nothing**, or it has come to an
end as described. -/
def GivesUpOr {ε α : Type} (s : σ) (Q : Except ε α → σ → Prop)
    (x : Except ε α × List (Option Failure) × σ) : Prop :=
  (∃ e, x.1 = .error e ∧ x.2.2 = s) ∨ Q x.1 x.2.2

/-- An action that begins with a call gives up if the call fails on the way; otherwise it goes
on with the answer of the store. -/
theorem GivesUpOr.ask_bind {ε α : Type} {b : Server σ} {c : Call} {s : σ} {a : c.Answer}
    {Q : Except ε α → σ → Prop} (h : (b.step c s).result = .ok a) {onFailure : Failure → ε}
    {f : c.Answer → Action ε α} {faults : List (Option Failure)}
    (hrest : GivesUpOr s Q ((f a).eval b.unreliable (faults.tail, (b.step c s).state))) :
    GivesUpOr s Q ((Action.ask c onFailure >>= f).eval b.unreliable (faults, s)) := by
  rcases hf : faults.head?.join with _ | e
  · have hstep := b.unreliable_step_of_none hf c s
    rw [Action.eval_ask_bind (b := b.unreliable) (by rw [hstep, h]), hstep]
    exact hrest
  · have hstep := b.unreliable_step_of_some hf c s
    rw [Action.eval_ask_bind_error (b := b.unreliable) (by rw [hstep]), hstep]
    exact .inl ⟨_, rfl, rfl⟩

namespace Medium

variable {k : Medium}

/-- The discipline of a store on an unreliable line: the store is valid at all times. -/
def unreliable (k : Medium) : Discipline k.backend.unreliable where
  Allowed _ := True
  Inv s := k.Valid s.2
  Later _ _ := True
  refl _ := trivial
  trans _ _ := trivial
  inv_step {c s} _ hs := by
    obtain ⟨f, -, heq⟩ | ⟨-, heq⟩ := Server.unreliable_cases k.backend c s
    · rwa [heq]
    · rw [heq]
      exact valid_step hs c
  later_step _ _ := trivial

/-- On an unreliable line too, a call that has not made an address leaves the addresses
alone. -/
theorem addresses_unreliable {x : Deed Call (List (Option Failure) × k.State) ι}
    (hx : k.Valid x.before.2) (h : makesAddress (x.entry k.backend.unreliable) = false) :
    (k.ledger (x.after k.backend.unreliable).2).addresses = (k.ledger x.before.2).addresses := by
  change makesAddress ⟨x.call, (k.backend.unreliable.step x.call x.before).result⟩ = false at h
  rw [Deed.after]
  obtain ⟨f, -, heq⟩ | ⟨hresult, heq⟩ := Server.unreliable_cases k.backend x.call x.before
  · rw [heq]
  · rw [hresult, show (k.backend.step x.call x.before.2).result = _ from hx.ask_eq _] at h
    rw [heq, hx.ledger_step]
    obtain ⟨-, haddresses⟩ | ⟨hmade, -⟩ := k.rules.addresses_step (k.ledger x.before.2) x.call
    · exact haddresses
    · exact absurd hmade (by rw [Bool.not_eq_true]; exact h)

end Medium

end Maildrop.Store
