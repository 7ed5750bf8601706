import Maildrop.Mailbox.HeaderBlock
import Maildrop.Store.Program

/-!
# A store as a mailbox

What a mailbox protocol asks for: the messages with their sizes, the content of one,
its header block and its body, and the removal of several.
-/

namespace Maildrop.Mailbox

open Store (Action Failure)

/-- **A message by name and size.** -/
structure Entry where
  id : String
  size : Nat
  deriving DecidableEq, Repr

/-- All messages, in the order of the store. -/
def entries : Action Failure (List Entry) := do
  let previews ← Action.ask .previews id
  pure (previews.map fun p => ⟨p.id, p.size⟩)

/-- The raw octets of a message. -/
def content (id : String) : Action Failure (Option Bytes) :=
  Action.ask (.raw id) fun f => f

/-- The header block of a message. -/
def headers (id : String) : Action Failure (Option Bytes) := do
  let raw ← content id
  pure (raw.map fun s => (split s).1)

/-- The body of a message. -/
def body (id : String) : Action Failure (Option Bytes) := do
  let raw ← content id
  pure (raw.map fun s => (split s).2)

/-- Deletes messages one after the other, up to the first that cannot be. -/
def removeEach : List String → Action Failure Unit
  | [] => pure ()
  | id :: ids => do
    Action.ask (.delete id) fun f => f.within (.removeMessage id)
    removeEach ids

/-- **Removes messages**; ids that name none are passed over. -/
def remove (ids : List String) : Action Failure Unit := do
  removeEach ids
  Action.record (.debug ("Removed " ++ toString ids.length ++ " message(s) from mailbox"))

end Maildrop.Mailbox
