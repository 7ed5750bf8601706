import Maildrop.Bytes

/-!
# Header block and body

A mailbox shows the header block of a message apart from its body. The block reaches to
the first empty line, which belongs to neither; its lines end in a line feed each,
however they ended in the message. Everything after the empty line is the body, octet
for octet.
-/

namespace Maildrop.Mailbox

/-- A line without a carriage return at its end. -/
def stripReturn (line : Bytes) : Bytes :=
  if line.getLast? = some Ascii.cr then line.dropLast else line

/-- The lines of the header block and the body, where `line` holds the octets of the
line being read, last octet first. -/
def splitFrom (line : Bytes) : Bytes → List Bytes × Bytes
  | [] =>
    let l := stripReturn line.reverse
    (if l.isEmpty then [] else [l], [])
  | c :: s =>
    if c = Ascii.lf then
      let l := stripReturn line.reverse
      if l.isEmpty then ([], s)
      else
        let r := splitFrom [] s
        (l :: r.1, r.2)
    else splitFrom (c :: line) s

/-- **The header block and the body** of a raw message. -/
def split (raw : Bytes) : Bytes × Bytes :=
  let r := splitFrom [] raw
  (r.1.flatMap (· ++ [Ascii.lf]), r.2)

end Maildrop.Mailbox
