import Maildrop.BodyTree

/-!
# Envelopes

What is kept of a message when it comes in: its subject and its body tree. Octets are
accepted as a message if they hold something besides white space, if they start with
a header field, and if reading them as mail finds a header block.
-/

namespace Maildrop

/-- **Why octets are no message.** -/
inductive EnvelopeError where
  /-- There is nothing but white space. -/
  | empty
  /-- No header block is in front. -/
  | noHeaders
  deriving DecidableEq, Repr

/-- The wording of an error. -/
def EnvelopeError.message : EnvelopeError → String
  | .empty => "message is empty"
  | .noHeaders => "message has no readable header block"

/-- **The subject and the body of a message.** -/
structure Envelope where
  subject : Option String
  body : BodyTree

namespace Envelope

/-- Whether the first line is a field: visible ASCII characters before a colon. -/
def startsWithField (raw : Bytes) : Bool :=
  let line := raw.takeWhile (· ≠ Ascii.lf)
  let name := line.takeWhile (· ≠ Ascii.octet ':')
  !name.isEmpty && name.length < line.length && name.all Ascii.isGraphic

/-- **Reads a message.** -/
def parse (raw : Bytes) : Except EnvelopeError Envelope :=
  if raw.all Ascii.isWhite then .error .empty
  else if !startsWithField raw then .error .noHeaders
  else
    match Mime.PartTable.ofBytes? raw with
    | some (root :: parts) =>
      if root.header.isEmpty then .error .noHeaders
      else
        .ok {
          subject := root.header.subject?.map String.ofList
          body := Mime.PartTable.bodyTree (root :: parts) root }
    | _ => .error .noHeaders

/-- The first readable text of the message. -/
def gist (e : Envelope) : Except UnsupportedContent (Option String) := e.body.gist

end Envelope

end Maildrop
