import Maildrop.Store.Error
import Maildrop.Store.Message

/-!
# The calls of a store

A store keeps addresses and messages, and answers ten calls. That an email is already
taken or a message already stored is an answer and no failure: both are expected, and
callers act on them.

A store never overwrites: an email has one address, and an id one message, until that
message is deleted.

The texts that report such an answer are for callers of a store who hand it on as a failure. No
command prints them, and no result is about them.
-/

namespace Maildrop.Store

/-- **A call.** -/
inductive Call where
  /-- The address with an email. -/
  | addressByEmail (email : String)
  /-- The address with a number. -/
  | address (id : Int)
  /-- Make an address. -/
  | createAddress (email : String) (name : Option String)
  /-- Store a message. -/
  | insert (message : NewMessage)
  /-- A message with its octets. -/
  | message (id : String)
  /-- The octets of a message. -/
  | raw (id : String)
  /-- Whether a message is stored. -/
  | has (id : String)
  /-- Delete a message, if it is stored. -/
  | delete (id : String)
  /-- All messages without their octets, in the order in which they were stored. -/
  | previews
  /-- The number of stored messages. -/
  | count
  deriving DecidableEq, Repr

/-- **What becomes of a new address.** -/
inductive Creation where
  | created (address : Address)
  /-- The email has an address already. -/
  | taken
  deriving DecidableEq, Repr

/-- **What becomes of a new message.** -/
inductive Insertion where
  | stored
  /-- The id has a message already. -/
  | duplicate
  deriving DecidableEq, Repr

/-- What a call answers. -/
abbrev Call.Answer : Call → Type
  | .addressByEmail _ => Option Address
  | .address _ => Option Address
  | .createAddress _ _ => Creation
  | .insert _ => Insertion
  | .message _ => Option Message
  | .raw _ => Option Bytes
  | .has _ => Bool
  | .delete _ => Unit
  | .previews => List Preview
  | .count => Nat

/-- What a call gives: its answer or a failure. -/
abbrev Call.Result (c : Call) : Type := Except Failure c.Answer

/-- The text that reports an email as taken. -/
def takenText (email : String) : String := "address " ++ email ++ " already exists"

/-- The text that reports a message as already stored. -/
def duplicateText (id : String) : String := "message " ++ id ++ " already exists"

end Maildrop.Store
