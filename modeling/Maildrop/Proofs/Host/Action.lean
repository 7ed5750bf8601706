import Maildrop.Proofs.Host.Disk
import Maildrop.Proofs.Program

/-!
# Running actions on a host

The laws of `Maildrop.Proofs.Program` for programs that run on a host and may fail, and what
the calls of such a program give on a disk.
-/

namespace Maildrop.Host.Action

variable {σ ε ε' α β : Type}

/-- **What an action gives**: its value or error, and the state after it. -/
def eval (b : Backend Call Call.Result σ) (x : Action ε α) (s : σ) : Except ε α × σ :=
  Program.eval b x.run s

section Laws

variable (b : Backend Call Call.Result σ) (s : σ)

@[simp] theorem eval_run (x : Action ε α) : Program.eval b x.run s = x.eval b s := rfl

@[simp] theorem eval_pure (a : α) : (pure a : Action ε α).eval b s = (.ok a, s) := rfl

@[simp] theorem eval_lift (r : Except ε α) : (lift r).eval b s = (r, s) := rfl

@[simp] theorem eval_ask (c : Call) :
    (ask c : Action ε c.Result).eval b s = (.ok (b.step c s).result, (b.step c s).state) := rfl

/-- A program that cannot fail gives its value. -/
@[simp] theorem eval_lift_program (p : Client α) :
    eval b (ExceptT.lift p : Action ε α) s = (.ok (p.eval b s).1, (p.eval b s).2) := by
  rw [eval, ExceptT.run_lift, ← bind_pure_comp, Program.eval_bind]
  rfl

@[simp] theorem eval_records (rs : List LogRecord) :
    (records rs : Action ε Unit).eval b s = (.ok (), s) := by
  rw [records, eval_lift_program, Program.eval, Program.run_records]

/-- One action after the other: the second is run if the first has not failed. -/
theorem eval_bind (x : Action ε α) (f : α → Action ε β) :
    (x >>= f).eval b s =
      match x.eval b s with
      | (.ok a, s') => (f a).eval b s'
      | (.error e, s') => (.error e, s') := by
  rw [eval, ExceptT.run_bind, Program.eval_bind, eval_run]
  rcases x.eval b s with ⟨a | e, s'⟩ <;> rfl

/-- An action that fails in other words fails where it has failed. -/
@[simp] theorem eval_adapt (x : Action ε α) (f : ε → ε') :
    eval b (ExceptT.adapt f x : Action ε' α) s = ((x.eval b s).1.mapError f, (x.eval b s).2) :=
  Program.eval_adapt b s x f

variable {b s}

theorem eval_bind_ok {x : Action ε α} {a : α} {s' : σ} (h : x.eval b s = (.ok a, s'))
    (f : α → Action ε β) : (x >>= f).eval b s = (f a).eval b s' := by
  rw [eval_bind, h]

theorem eval_bind_error {x : Action ε α} {e : ε} {s' : σ} (h : x.eval b s = (.error e, s'))
    (f : α → Action ε β) : (x >>= f).eval b s = (.error e, s') := by
  rw [eval_bind, h]

end Laws

/-! ### Calls on a disk -/

section Disk

variable (input : Bytes) (clock : Instant) (d : Disk) (path : String)

/-- **The disk grows** in the run of every program. -/
theorem grows_eval (p : Client α) (d : Disk) : d.Grows (p.eval (Disk.host input clock) d).2 := by
  induction p generalizing d with
  | done a => exact .refl d
  | log r next ih => exact ih d
  | call c next ih => exact (Disk.grows_step input clock c d).trans (ih _ _)

theorem eval_read (onFailure : DiskError → ε) :
    (read path onFailure).eval (Disk.host input clock) d = ((d.read path).mapError onFailure, d) :=
  rfl

/-- A text is read from a file in UTF-8. -/
theorem eval_readText (onFailure : DiskError → ε) :
    (readText path onFailure).eval (Disk.host input clock) d =
      (((d.read path).mapError onFailure).bind fun content =>
        match Utf8.decode? content with
        | some t => .ok t
        | none => .error (onFailure .notText), d) := by
  rw [readText, eval_bind, eval_read]
  rcases d.read path with e | content
  · rfl
  · change (match Utf8.decode? content with
      | some t => pure t
      | none => throw (onFailure .notText) : Action ε Text).eval _ d =
      (match Utf8.decode? content with
        | some t => .ok t
        | none => .error (onFailure .notText), d)
    rcases Utf8.decode? content with _ | t <;> rfl

variable {d} {path}

theorem eval_makeDirectories_ok {d' : Disk} (h : d.makeDirectories path = .ok d')
    (onFailure : DiskError → ε) :
    (makeDirectories path onFailure).eval (Disk.host input clock) d = (.ok (), d') := by
  change ((d.changed (d.makeDirectories path)).1.mapError onFailure,
    (d.changed (d.makeDirectories path)).2) = _
  rw [h]
  rfl

theorem eval_makeDirectories_error {e : DiskError} (h : d.makeDirectories path = .error e)
    (onFailure : DiskError → ε) :
    (makeDirectories path onFailure).eval (Disk.host input clock) d =
      (.error (onFailure e), d) := by
  change ((d.changed (d.makeDirectories path)).1.mapError onFailure,
    (d.changed (d.makeDirectories path)).2) = _
  rw [h]
  rfl

theorem eval_write_ok {content : Bytes} {d' : Disk} (h : d.write path content = .ok d')
    (onFailure : DiskError → ε) :
    (write path content onFailure).eval (Disk.host input clock) d = (.ok (), d') := by
  change ((d.changed (d.write path content)).1.mapError onFailure,
    (d.changed (d.write path content)).2) = _
  rw [h]
  rfl

theorem eval_write_error {content : Bytes} {e : DiskError} (h : d.write path content = .error e)
    (onFailure : DiskError → ε) :
    (write path content onFailure).eval (Disk.host input clock) d = (.error (onFailure e), d) := by
  change ((d.changed (d.write path content)).1.mapError onFailure,
    (d.changed (d.write path content)).2) = _
  rw [h]
  rfl

end Disk

end Maildrop.Host.Action
