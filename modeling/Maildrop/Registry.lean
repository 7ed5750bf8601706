import Maildrop.Store.Program
import Maildrop.Submission.Error

/-!
# The registry of senders

An email is looked up in its normal form, and an address is made the first time an email
is seen. Between the look-up and the making another client may make the address; the
store then answers that the email is taken, and one more look-up finds it. If that
finds nothing either, the store contradicts itself.
-/

namespace Maildrop.Registry

open Store (Action Failure)

/-- The address of an email, in any spelling. -/
def find (email : String) : Action Failure (Option Address) :=
  Action.ask (.addressByEmail (normalizeEmail email)) id

/-- The address of a normalized email that the store says is taken. -/
def reread (email : String) : Action Submission.Error Address := do
  Action.record (.warn ("Sender " ++ email ++ " was created concurrently, re-reading"))
  match ← Action.ask (.addressByEmail email) .storage with
  | some address => pure address
  | none =>
    Action.record (.error ("Sender " ++ email ++ " missing after creation conflict"))
    throw (.addressReconciliation email)

/-- Makes the address of a normalized email. -/
def create (email : String) (name : Option String) : Action Submission.Error Address := do
  match ← Action.ask (.createAddress email name) .storage with
  | .created address =>
    Action.record (.debug ("Registered sender " ++ email ++ " as " ++ toString address.id))
    pure address
  | .taken => reread email

/-- **The address of an email**, made with the given name if there is none. -/
def getOrCreate (email : String) (name : Option String) : Action Submission.Error Address := do
  match ← Action.ask (.addressByEmail (normalizeEmail email)) .storage with
  | some address => pure address
  | none => create (normalizeEmail email) name

end Maildrop.Registry
