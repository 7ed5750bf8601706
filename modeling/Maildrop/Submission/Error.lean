import Maildrop.Envelope
import Maildrop.Store.Error

/-!
# Why a submission fails

A failed submission has a cause, and every cause has a fault: the submitter's, the
sink's, or that of stored data which contradicts itself. Whoever carries submissions
answers the submitter by the fault.
-/

namespace Maildrop.Submission

/-- **Whose fault it is.** -/
inductive Fault where
  /-- The submission is unacceptable, and nothing has been stored. -/
  | client
  /-- The sink could not complete a valid submission. -/
  | server
  /-- Stored data contradicts itself. -/
  | fatal
  deriving DecidableEq, Repr

/-- **Why a submission fails.** -/
inductive Error where
  /-- The sender has none of the forms of a sender. -/
  | malformedSender (sender : String)
  /-- Data came before a sender. -/
  | missingSender
  /-- The session has had its submission. -/
  | sessionFinished
  /-- The data are no message. -/
  | unreadable (error : EnvelopeError)
  /-- The data could not be read to their end. -/
  | read (reason : String)
  /-- The same message is stored already. -/
  | resubmission (id : String)
  /-- Another message is stored under the id. -/
  | idCollision (id : String)
  /-- An email is taken, and yet has no address. -/
  | addressReconciliation (email : String)
  /-- The store failed. -/
  | storage (failure : Store.Failure)
  deriving DecidableEq, Repr

namespace Error

/-- Whose fault it is. -/
def fault : Error → Fault
  | .malformedSender _ | .missingSender | .sessionFinished | .unreadable _ => .client
  | .read _ | .resubmission _ | .storage _ => .server
  | .idCollision _ | .addressReconciliation _ => .fatal

/-- The wording of an error. -/
def message : Error → String
  | .malformedSender sender => "malformed sender address: " ++ Text.quoted sender
  | .missingSender => "message data received before a sender"
  | .sessionFinished => "session already finished"
  | .unreadable e => "unreadable message: " ++ e.message
  | .read _ => "failed to read message data"
  | .resubmission id => "message " ++ id ++ " was already submitted"
  | .idCollision id => "message id " ++ id ++ " collides with different stored content"
  | .addressReconciliation email => "address " ++ email ++ " missing after a creation conflict"
  | .storage f => f.message

/-- The wording of an error with what lies behind it. -/
def detail (e : Error) : String :=
  match e with
  | .unreadable reason => e.message ++ ": " ++ reason.message
  | .read reason => e.message ++ ": " ++ reason
  | .storage f => f.detail
  | _ => e.message

/-- The wording of an error in a log record: a failure of the store in full. -/
def report (e : Error) : String :=
  match e with
  | .storage f => f.detail
  | _ => e.message

end Error

end Maildrop.Submission
