import Maildrop.MessageId
import Maildrop.Registry
import Maildrop.Text.Cut

/-!
# Sessions

Whoever carries submissions opens a session for each: it hears a sender, then receives
the data, and is told when all is done. A session takes data once. Before that a later
sender replaces an earlier one; after it nothing changes the session any more.

Nothing is written before the sender has been understood, the data have been read to
their end and they have been found to be a message. Then the sender's address is found
or made, and the message is stored under the id of its content. A message that is
stored already is compared with the new one, so that resubmission and collision are
told apart.
-/

namespace Maildrop

open Store (Action Client)

/-- **Data on their way in.** -/
structure Delivery where
  /-- The octets that could be read. -/
  octets : Bytes
  /-- Why no more could be read, if the data did not just end. -/
  failure : Option String := none
  /-- When the data came. -/
  receivedAt : Instant := 0

namespace Submission

/-! ### Storing a message -/

/-- The most characters of a subject that are kept, dots included. -/
def subjectLimit : Nat := 100

/-- The most characters of a body that are kept. -/
def bodyLimit : Nat := 100

/-- A text cut for a preview; a missing one is empty. -/
def preview (t : Option String) (limit : Nat) (dots : Bool) : String :=
  String.ofList (Text.truncate ((t.map String.toList).getD []) limit dots)

/-- The message that is stored for a delivery. -/
def newMessage (address : Address) (envelope : Envelope) (gist : Option String) (d : Delivery) :
    NewMessage where
  id := MessageId.ofContent d.octets
  senderId := address.id
  subjectPreview := preview envelope.subject subjectLimit true
  bodyPreview := preview gist bodyLimit false
  raw := d.octets
  receivedAt := d.receivedAt

/-- The record of an envelope that has been read. -/
def envelopeRecord (e : Envelope) : LogRecord :=
  let subject := match e.subject with
    | some s => "Some(" ++ Text.quoted s ++ ")"
    | none => "None"
  .debug ("Parsed envelope: subject=" ++ subject ++ " body=" ++ e.body.shape)

/-- The gist of an envelope; one that cannot be had is done without. -/
def gistFor (address : Address) (envelope : Envelope) : Action Error (Option String) :=
  match envelope.gist with
  | .ok gist => pure gist
  | .error e => do
    Action.record (.warn
      ("Storing message from " ++ address.email ++ " without body preview: " ++ e.message))
    pure none

/-- What a message that is stored already means: the same octets have been submitted
before, or others have the same id. One that is gone again was there a moment ago. -/
def duplicate (id : String) (raw : Bytes) : Action Error String := do
  match ← Action.ask (.raw id) fun f => .storage (f.within (.compareDuplicate id)) with
  | some stored => throw (if stored = raw then .resubmission id else .idCollision id)
  | none => throw (.resubmission id)

/-- Stores the message of an envelope under the id of its content. -/
def deposit (address : Address) (envelope : Envelope) (d : Delivery) : Action Error String := do
  let gist ← gistFor address envelope
  let message := newMessage address envelope gist d
  match ← Action.ask (.insert message) .storage with
  | .stored => pure message.id
  | .duplicate => duplicate message.id message.raw

/-- **Stores a delivery** from a claimed sender, and gives the id of the message. -/
def accept (sender : String) (d : Delivery) : Action Error String :=
  match Sender.parse? sender, d.failure with
  | none, _ => throw (.malformedSender sender)
  | some _, some reason => throw (.read reason)
  | some claimed, none =>
    match Envelope.parse d.octets with
    | .error e => throw (.unreadable e)
    | .ok envelope => do
      Action.record (envelopeRecord envelope)
      let address ← Registry.getOrCreate claimed.email claimed.name
      deposit address envelope d

/-- The record of what became of a delivery. -/
def outcomeRecord (sender : String) : Except Error String → LogRecord
  | .ok id => .info ("Stored message " ++ id ++ " from " ++ sender)
  | .error e =>
    match e.fault with
    | .client =>
      .debug ("Rejected submission from " ++ Text.quoted sender ++ ": " ++ e.message)
    | .server =>
      .warn ("Failed to store submission from " ++ Text.quoted sender ++ ": " ++ e.report)
    | .fatal =>
      .error ("Store inconsistency for " ++ Text.quoted sender ++ ": " ++ e.report)

end Submission

/-! ### The life of a session -/

/-- **A session**, by what it waits for or has come to. -/
inductive Session where
  /-- No sender has been heard. -/
  | receivingSender
  /-- A sender has been heard, and data may come. -/
  | receivingData (sender : String)
  /-- The message has been stored. -/
  | resolved (id : String)
  /-- The submission has failed. -/
  | rejected
  deriving DecidableEq, Repr

namespace Session

/-- Whether the session has had its submission. -/
def isFinished : Session → Bool
  | .resolved _ | .rejected => true
  | _ => false

/-- The session in words. -/
def text : Session → String
  | .receivingSender => "receiving sender"
  | .receivingData sender => "receiving data from " ++ sender
  | .resolved id => "stored " ++ id
  | .rejected => "rejected"

/-- **A sender is heard.** -/
def hear (s : Session) (sender : String) : Client Session := do
  if s.isFinished then
    Program.record (.debug ("Ignoring sender " ++ Text.quoted sender ++ " on finished session"))
    pure s
  else
    Program.record (.debug ("Sender header: " ++ Text.quoted sender))
    pure (.receivingData sender)

/-- **Data are received**: the id of the stored message or the error, and the session
afterwards. -/
def receive (s : Session) (d : Delivery) : Client (Except Submission.Error String × Session) :=
  match s with
  | .receivingSender => do
    Program.record (.debug "Message data arrived before a sender")
    pure (.error .missingSender, .rejected)
  | .receivingData sender => do
    let result ← (Submission.accept sender d).run
    Program.record (Submission.outcomeRecord sender result)
    match result with
    | .ok id => pure (result, .resolved id)
    | .error _ => pure (result, .rejected)
  | finished => pure (.error .sessionFinished, finished)

/-- **All is done**, which only leaves a record. -/
def finish (s : Session) : Client Unit := Program.record (.debug ("Session done: " ++ s.text))

end Session

/-- **A whole submission**: sender, data and end, in a session of its own. -/
def Submission.submit (sender : String) (d : Delivery) :
    Client (Except Submission.Error String) := do
  let s ← Session.receivingSender.hear sender
  let r ← s.receive d
  r.2.finish
  pure r.1

end Maildrop
