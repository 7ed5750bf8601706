import Maildrop.Log

/-!
# Programs

What uses a store, or the machine it runs on, is written as a *program*: a tree of
calls, each with what to do after every result it may have, and of log records on the
way (`Maildrop.Program`). A program says nothing about how a call is answered. A
*backend* does: it takes one call at a time from one state to the next
(`Maildrop.Backend`), and `Maildrop.Program.run` runs a program on it.

Since each call is one step, programs of several clients can also be run interleaved.
-/

namespace Maildrop

/-! ### Programs -/

/-- **A program** that makes calls, each with a result of its own type, and ends with a
value. -/
inductive Program (Call : Type) (Result : Call → Type) (α : Type) where
  /-- Ends. -/
  | done (value : α)
  /-- Writes a log record and goes on. -/
  | log (record : LogRecord) (next : Program Call Result α)
  /-- Makes a call and goes on with its result. -/
  | call (c : Call) (next : Result c → Program Call Result α)

namespace Program

variable {Call : Type} {Result : Call → Type} {α β : Type}

/-- Goes on with another program. -/
def bind (p : Program Call Result α) (f : α → Program Call Result β) : Program Call Result β :=
  match p with
  | .done a => f a
  | .log r next => .log r (next.bind f)
  | .call c next => .call c fun x => (next x).bind f

instance : Monad (Program Call Result) where
  pure := .done
  bind := Program.bind

/-- Writes one record. -/
def record (r : LogRecord) : Program Call Result Unit := .log r (.done ())

/-- Writes records in order. -/
def records (rs : List LogRecord) : Program Call Result Unit :=
  rs.foldr (fun r p => .log r p) (.done ())

/-- Makes one call. -/
def ask (c : Call) : Program Call Result (Result c) := .call c .done

end Program

/-! ### Backends -/

/-- What one call does: its result, the state after it, and the records written. -/
structure Outcome (σ : Type) {Call : Type} (Result : Call → Type) (c : Call) where
  result : Result c
  state : σ
  log : List LogRecord := []

/-- **A backend**: what each call does in each state. -/
structure Backend (Call : Type) (Result : Call → Type) (σ : Type) where
  step : (c : Call) → σ → Outcome σ Result c

/-- What running a program gives: its value, the state after it, and the records
written. -/
structure Run (σ α : Type) where
  value : α
  state : σ
  log : List LogRecord

/-- **Runs a program** from a state. -/
def Program.run {Call : Type} {Result : Call → Type} {σ α : Type} (b : Backend Call Result σ) :
    Program Call Result α → σ → Run σ α
  | .done a, s => ⟨a, s, []⟩
  | .log r next, s =>
    let rest := next.run b s
    { rest with log := r :: rest.log }
  | .call c next, s =>
    let o := b.step c s
    let rest := (next o.result).run b o.state
    { rest with log := o.log ++ rest.log }

namespace Program

variable {Call : Type} {Result : Call → Type} {σ α β : Type}

/-- One program after the other runs in the state that the first one leaves, and its
records come behind those of the first. -/
theorem run_bind (b : Backend Call Result σ) (p : Program Call Result α)
    (f : α → Program Call Result β) (s : σ) :
    (p.bind f).run b s =
      ⟨((f (p.run b s).value).run b (p.run b s).state).value,
        ((f (p.run b s).value).run b (p.run b s).state).state,
        (p.run b s).log ++ ((f (p.run b s).value).run b (p.run b s).state).log⟩ := by
  induction p generalizing s with
  | done a => rfl
  | log r next ih => simp only [bind, run, ih, List.cons_append]
  | call c next ih => simp only [bind, run, ih, List.append_assoc]

/-- Records are written in order, and nothing else happens. -/
theorem run_records (b : Backend Call Result σ) (rs : List LogRecord) (s : σ) :
    (records rs : Program Call Result Unit).run b s = ⟨(), s, rs⟩ := by
  induction rs with
  | nil => rfl
  | cons r rs ih =>
    have h : (records (r :: rs) : Program Call Result Unit) = .log r (records rs) := rfl
    simp only [h, run, ih]

end Program

end Maildrop
