import Maildrop.Proofs.Program
import Maildrop.Store.Program

/-!
# Running actions

The laws of `Maildrop.Proofs.Program` for programs that may fail: an action that fails
skips what comes after it, and leaves the state in which it has failed.
-/

namespace Maildrop.Store.Action

variable {σ ε ε' α β : Type}

/-- **What an action gives**: its value or error, and the state after it. -/
def eval (b : Server σ) (x : Action ε α) (s : σ) : Except ε α × σ := Program.eval b x.run s

variable (b : Server σ) (s : σ)

@[simp] theorem eval_run (x : Action ε α) : Program.eval b x.run s = x.eval b s := rfl

@[simp] theorem eval_pure (a : α) : (pure a : Action ε α).eval b s = (.ok a, s) := rfl

@[simp] theorem eval_throw (e : ε) : (throw e : Action ε α).eval b s = (.error e, s) := rfl

@[simp] theorem eval_record (r : LogRecord) :
    (record r : Action ε Unit).eval b s = (.ok (), s) := rfl

@[simp] theorem eval_ask (c : Call) (onFailure : Failure → ε) :
    (ask c onFailure).eval b s =
      ((b.step c s).result.mapError onFailure, (b.step c s).state) := rfl

/-- One action after the other: the second is run if the first has not failed. -/
theorem eval_bind (x : Action ε α) (f : α → Action ε β) :
    (x >>= f).eval b s =
      match x.eval b s with
      | (.ok a, s') => (f a).eval b s'
      | (.error e, s') => (.error e, s') := by
  rw [eval, ExceptT.run_bind, Program.eval_bind, eval_run]
  rcases x.eval b s with ⟨a | e, s'⟩ <;> rfl

/-- An action that fails in other words fails where it has failed. -/
@[simp] theorem eval_adapt (x : Action ε α) (f : ε → ε') :
    eval b (ExceptT.adapt f x : Action ε' α) s = ((x.eval b s).1.mapError f, (x.eval b s).2) :=
  Program.eval_adapt b s x f

variable {b s}

theorem eval_bind_ok {x : Action ε α} {a : α} {s' : σ} (h : x.eval b s = (.ok a, s'))
    (f : α → Action ε β) : (x >>= f).eval b s = (f a).eval b s' := by
  rw [eval_bind, h]

theorem eval_bind_error {x : Action ε α} {e : ε} {s' : σ} (h : x.eval b s = (.error e, s'))
    (f : α → Action ε β) : (x >>= f).eval b s = (.error e, s') := by
  rw [eval_bind, h]

/-- An answer to a call is handed on. -/
theorem eval_ask_bind {c : Call} {a : c.Answer} (h : (b.step c s).result = .ok a)
    (onFailure : Failure → ε) (f : c.Answer → Action ε β) :
    (ask c onFailure >>= f).eval b s = (f a).eval b (b.step c s).state :=
  eval_bind_ok (by rw [eval_ask, h]; rfl) f

/-- A failure of a call ends the action. -/
theorem eval_ask_bind_error {c : Call} {e : Failure} (h : (b.step c s).result = .error e)
    (onFailure : Failure → ε) (f : c.Answer → Action ε α) :
    (ask c onFailure >>= f).eval b s = (.error (onFailure e), (b.step c s).state) := by
  rw [eval_bind, eval_ask, h]
  rfl

end Maildrop.Store.Action
