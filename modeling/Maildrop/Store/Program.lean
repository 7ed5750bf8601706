import Maildrop.Program
import Maildrop.Store.Call

/-!
# Clients of a store

Programs whose calls are those of a store. Most of them may fail: an *action* is such a
program together with its errors, and passes on the failures of its calls in its own
words.
-/

namespace Maildrop.Store

/-- **A program that uses a store.** -/
abbrev Client (α : Type) := Program Call Call.Result α

/-- **A store that works somehow**: what each call does in each state. -/
abbrev Server (σ : Type) := Backend Call Call.Result σ

/-- What a call of a store does. -/
abbrev Step (σ : Type) (c : Call) := Outcome σ Call.Result c

/-- **A program that uses a store and may fail.** -/
abbrev Action (ε α : Type) := ExceptT ε Client α

namespace Action

variable {ε α : Type}

/-- Writes one record. -/
def record (r : LogRecord) : Action ε Unit := ExceptT.lift (Program.record r)

/-- Makes one call; a failure is passed on in the words of the caller. -/
def ask (c : Call) (onFailure : Failure → ε) : Action ε c.Answer :=
  ExceptT.mk (Program.bind (Program.ask c) fun r => .done (r.mapError onFailure))

end Action

end Maildrop.Store
