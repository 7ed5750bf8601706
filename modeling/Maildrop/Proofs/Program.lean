import Maildrop.Program

/-!
# Running programs on related backends

What a program gives on a backend is a value and a state, besides the records that it
writes (`Maildrop.Program.eval`). This module has the laws by which values and states
are computed, and ways in which later modules reason about all programs at once:

* a program makes its calls in states that the calls before them have reached
  (`Maildrop.Program.forall_mem_trace`), and no more of them than its text has in a row
  (`Maildrop.Program.AtMost.countP_trace`);
* if one backend stands for another, in the sense that related states answer every call
  alike and stay related, then no program can tell the two apart
  (`Maildrop.Refines.eval`).
-/

namespace Maildrop

variable {Call : Type} {Result : Call → Type} {σ τ α β ε ε' : Type}

namespace Program

/-- Programs one after the other can be grouped in any way. -/
instance : LawfulMonad (Program Call Result) :=
  LawfulMonad.mk' _
    (fun p => by
      induction p with
      | done a => rfl
      | log r next ih => exact congrArg (log r) ih
      | call c next ih => exact congrArg (call c) (funext ih))
    (fun _ _ => rfl)
    (fun p f g => by
      induction p with
      | done a => rfl
      | log r next ih => exact congrArg (log r) ih
      | call c next ih => exact congrArg (call c) (funext ih))

/-! ### Values and states -/

/-- **What a program gives**: its value and the state after it, without the records. -/
def eval (b : Backend Call Result σ) (p : Program Call Result α) (s : σ) : α × σ :=
  ((p.run b s).value, (p.run b s).state)

variable (b : Backend Call Result σ) (s : σ)

@[simp] theorem eval_pure (a : α) : (pure a : Program Call Result α).eval b s = (a, s) := rfl

@[simp] theorem eval_call (c : Call) (next : Result c → Program Call Result α) :
    (call c next).eval b s = (next (b.step c s).result).eval b (b.step c s).state := rfl

@[simp] theorem eval_record (r : LogRecord) :
    (record r : Program Call Result Unit).eval b s = ((), s) := rfl

@[simp] theorem eval_ask (c : Call) :
    (ask c : Program Call Result (Result c)).eval b s =
      ((b.step c s).result, (b.step c s).state) := rfl

/-- One program after the other goes on in the state that the first one leaves. -/
@[simp] theorem eval_bind (p : Program Call Result α) (f : α → Program Call Result β) :
    (p >>= f).eval b s = (f (p.eval b s).1).eval b (p.eval b s).2 := by
  change (p.bind f).eval b s = _
  rw [eval, run_bind]
  rfl

/-- A program that fails in other words fails where it has failed. -/
theorem eval_adapt (x : ExceptT ε (Program Call Result) α) (f : ε → ε') :
    (ExceptT.adapt f x).run.eval b s = ((x.run.eval b s).1.mapError f, (x.run.eval b s).2) := by
  change (Except.mapError f <$> x.run).eval b s = _
  rw [← bind_pure_comp, eval_bind]
  rfl

/-! ### The calls of a run -/

/-- **The calls that a run makes**, each with the state in which it is made. -/
def trace (b : Backend Call Result σ) : Program Call Result α → σ → List (Call × σ)
  | .done _, _ => []
  | .log _ next, s => next.trace b s
  | .call c next, s => (c, s) :: (next (b.step c s).result).trace b (b.step c s).state

/-- What every call keeps holds whenever a program makes a call. -/
theorem forall_mem_trace {b : Backend Call Result σ} {I : σ → Prop}
    (hI : ∀ c s, I s → I (b.step c s).state) (p : Program Call Result α) {s : σ} (hs : I s) :
    ∀ x ∈ p.trace b s, I x.2 := by
  induction p generalizing s with
  | done a => simp [trace]
  | log r next ih => exact ih hs
  | call c next ih =>
    intro x hx
    rcases List.mem_cons.mp hx with rfl | hx
    · exact hs
    · exact ih _ (hI c s hs) x hx

@[simp] theorem trace_pure (b : Backend Call Result σ) (a : α) (s : σ) :
    (pure a : Program Call Result α).trace b s = [] := rfl

/-- One program after the other makes its calls in the state that the first one leaves. -/
theorem trace_bind (b : Backend Call Result σ) (p : Program Call Result α)
    (f : α → Program Call Result β) (s : σ) :
    (p >>= f).trace b s = p.trace b s ++ (f (p.eval b s).1).trace b (p.eval b s).2 := by
  induction p generalizing s with
  | done a => rfl
  | log r next ih => exact ih s
  | call c next ih => exact congrArg ((c, s) :: ·) (ih _ _)

/-! ### How many calls -/

/-- **A program makes at most so many calls of a kind**, whatever it is answered. -/
inductive AtMost (q : Call → Bool) : Nat → Program Call Result α → Prop where
  | done {n : Nat} (a : α) : AtMost q n (.done a)
  | log {n : Nat} {r : LogRecord} {p : Program Call Result α} (h : AtMost q n p) :
    AtMost q n (.log r p)
  /-- A call of another kind. -/
  | other {n : Nat} {c : Call} {next : Result c → Program Call Result α} (hc : q c = false)
    (h : ∀ x, AtMost q n (next x)) : AtMost q n (.call c next)
  /-- A call that counts. -/
  | counted {n : Nat} {c : Call} {next : Result c → Program Call Result α}
    (h : ∀ x, AtMost q n (next x)) : AtMost q (n + 1) (.call c next)

namespace AtMost

variable {q : Call → Bool} {m n : Nat} {p : Program Call Result α}

theorem mono (h : AtMost q m p) (hmn : m ≤ n) : AtMost q n p := by
  induction h generalizing n with
  | done a => exact .done a
  | log _ ih => exact .log (ih hmn)
  | other hc _ ih => exact .other hc fun x => ih x hmn
  | counted _ ih =>
    obtain ⟨n, rfl⟩ : ∃ n', n = n' + 1 := ⟨n - 1, by omega⟩
    exact .counted fun x => ih x (by omega)

/-- One program after the other makes as many calls as both. -/
theorem bind (h : AtMost q m p) {f : α → Program Call Result β} (hf : ∀ a, AtMost q n (f a)) :
    AtMost q (m + n) (p >>= f) := by
  induction h with
  | done a => exact (hf a).mono (Nat.le_add_left ..)
  | log _ ih => exact .log ih
  | other hc _ ih => exact .other hc ih
  | counted _ ih =>
    rw [Nat.add_right_comm]
    exact .counted ih

/-- What makes no call of the kind can come behind. -/
theorem bind_none (h : AtMost q m p) {f : α → Program Call Result β}
    (hf : ∀ a, AtMost q 0 (f a)) : AtMost q m (p >>= f) := h.bind (n := 0) hf

/-- **On every backend no more calls are made than that.** -/
theorem countP_trace (h : AtMost q n p) (b : Backend Call Result σ) (s : σ) :
    (p.trace b s).countP (fun x => q x.1) ≤ n := by
  induction h generalizing s with
  | done a => exact Nat.zero_le _
  | log _ ih => exact ih s
  | other hc _ ih =>
    rw [trace, List.countP_cons_of_neg (by rw [hc]; simp)]
    exact ih _ _
  | @counted n c next _ ih =>
    have hrest := ih (b.step c s).result (b.step c s).state
    rw [trace, List.countP_cons]
    split <;> omega

end AtMost

end Program

/-! ### Calls one after the other -/

namespace Backend

variable (b : Backend Call Result σ)

/-- The state after some calls. -/
def after (cs : List Call) (s : σ) : σ := cs.foldl (fun s c => (b.step c s).state) s

/-- **The history of some calls**: each with its result. -/
def history : List Call → σ → List ((c : Call) × Result c)
  | [], _ => []
  | c :: cs, s => ⟨c, (b.step c s).result⟩ :: history cs (b.step c s).state

@[simp] theorem after_cons (c : Call) (cs : List Call) (s : σ) :
    b.after (c :: cs) s = b.after cs (b.step c s).state := rfl

/-- What every call keeps holds after any calls. -/
theorem after_keeps {I : σ → Prop} (hI : ∀ c s, I s → I (b.step c s).state) (cs : List Call)
    {s : σ} (hs : I s) : I (b.after cs s) := by
  induction cs generalizing s with
  | nil => exact hs
  | cons c cs ih => exact ih (hI c s hs)

end Backend

/-! ### One backend standing for another -/

/-- **One backend stands for another**: related states answer every call alike, and the
states after the call are related again. -/
structure Refines (b : Backend Call Result σ) (b' : Backend Call Result τ) (R : σ → τ → Prop) :
    Prop where
  result : ∀ c s t, R s t → (b.step c s).result = (b'.step c t).result
  state : ∀ c s t, R s t → R (b.step c s).state (b'.step c t).state

namespace Refines

variable {b : Backend Call Result σ} {b' : Backend Call Result τ} {R : σ → τ → Prop}

/-- **No program can tell the two apart.** -/
theorem eval (h : Refines b b' R) (p : Program Call Result α) {s : σ} {t : τ} (hst : R s t) :
    (p.eval b s).1 = (p.eval b' t).1 ∧ R (p.eval b s).2 (p.eval b' t).2 := by
  induction p generalizing s t with
  | done a => exact ⟨rfl, hst⟩
  | log r next ih => exact ih hst
  | call c next ih =>
    simp only [Program.eval_call, h.result c s t hst]
    exact ih _ (h.state c s t hst)

/-- Nor can any calls one after the other. -/
theorem history (h : Refines b b' R) (cs : List Call) {s : σ} {t : τ} (hst : R s t) :
    b.history cs s = b'.history cs t ∧ R (b.after cs s) (b'.after cs t) := by
  induction cs generalizing s t with
  | nil => exact ⟨rfl, hst⟩
  | cons c cs ih =>
    obtain ⟨hh, hR⟩ := ih (h.state c s t hst)
    exact ⟨by rw [Backend.history, Backend.history, hh, h.result c s t hst], hR⟩

end Refines

end Maildrop
