import Maildrop.Bytes
import Maildrop.Sender
import Maildrop.Time

/-!
# Stored messages

A message is stored under its id with its raw octets, the address it came from and two
previews. The previews are stored as they are given; cutting them is left to whoever
brings the message.
-/

namespace Maildrop

/-- **A message on its way into a store.** -/
structure NewMessage where
  id : String
  senderId : Int
  subjectPreview : String
  bodyPreview : String
  raw : Bytes
  receivedAt : Instant
  deriving DecidableEq, Repr

/-- **A stored message.** -/
structure Message where
  id : String
  senderId : Int
  subjectPreview : String
  bodyPreview : String
  /-- The number of octets of the raw message, as the store keeps it. -/
  size : Nat
  receivedAt : Instant
  raw : Bytes
  deriving DecidableEq, Repr

/-- **An entry of a listing**: a message without its octets, with its sender. -/
structure Preview where
  id : String
  sender : Address
  subjectPreview : String
  bodyPreview : String
  size : Nat
  receivedAt : Instant
  deriving DecidableEq, Repr

/-- The message as it is stored. -/
def NewMessage.stored (m : NewMessage) : Message where
  id := m.id
  senderId := m.senderId
  subjectPreview := m.subjectPreview
  bodyPreview := m.bodyPreview
  size := m.raw.length
  receivedAt := m.receivedAt
  raw := m.raw

end Maildrop
