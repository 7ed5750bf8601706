import Maildrop.Digest.Sha256
import Maildrop.Digest.Base64Url
import Maildrop.Text.Ascii

/-!
# Message ids

A message is named by its content: its id is the digest of its raw octets in the
URL-safe base64 form. The same octets always have the same id, so a resubmission is
recognized by its name, and an id never has to be stored apart from what it names.
-/

namespace Maildrop.MessageId

/-- The number of octets of an id: thirty-two digest octets in unpadded base64. -/
def size : Nat := 43

/-- **The id of a raw message.** -/
def ofContent (raw : Bytes) : String := String.ofList (Base64Url.encode (Sha256.digest raw))

/-- A character that an id may hold. -/
def isIdChar (c : Char) : Bool := Text.isAlphanumAscii c || c == '-' || c == '_'

/-- **The shape of an id**: forty-three octets, each an ASCII letter or digit, a hyphen
or an underscore. Since these are ASCII, counting characters counts octets. -/
def isValid (id : String) : Bool :=
  id.toList.length == size && id.toList.all isIdChar

end Maildrop.MessageId
