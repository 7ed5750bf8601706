import Maildrop.Store.Program
import Maildrop.Text.Cut
import Maildrop.Text.Slug

/-!
# Messages as they are shown

A listing shows a title for every message: its subject or, without one, a short form
of its body. The title also gives a name fit for a URL. A single message is shown with
its sender.
-/

namespace Maildrop.Mailbox

open Store (Action Failure)

/-- **A message in a listing.** -/
structure Summary where
  id : String
  /-- The sender the way a mail header shows it. -/
  sender : String
  senderEmail : String
  subject : String
  /-- The beginning of the body. -/
  snippet : String
  title : String
  /-- The title, fit for a URL. -/
  slug : String
  size : Nat
  receivedAt : Instant
  deriving DecidableEq, Repr

/-- The title of a message. -/
def titleOf (p : Preview) : String :=
  if p.subjectPreview.isEmpty then String.ofList (Text.shorten p.bodyPreview.toList)
  else p.subjectPreview

/-- The summary of a listing entry. -/
def Summary.ofPreview (p : Preview) : Summary where
  id := p.id
  sender := p.sender.display
  senderEmail := p.sender.email
  subject := p.subjectPreview
  snippet := p.bodyPreview
  title := titleOf p
  slug := String.ofList (Text.slug (titleOf p).toList)
  size := p.size
  receivedAt := p.receivedAt

/-- All messages, in the order of the store. -/
def summaries : Action Failure (List Summary) := do
  let previews ← Action.ask .previews id
  pure (previews.map Summary.ofPreview)

/-- **A message with its sender.** -/
structure Detail where
  message : Message
  sender : Address
  deriving DecidableEq, Repr

/-- A message with its sender, which has to be there if the message is. -/
def detail (id : String) : Action Failure (Option Detail) := do
  match ← Action.ask (.message id) fun f => f with
  | none => pure none
  | some message =>
    match ← Action.ask (.address message.senderId) fun f => f with
    | some sender => pure (some ⟨message, sender⟩)
    | none => throw ⟨.lostSender id message.senderId, []⟩

end Maildrop.Mailbox
