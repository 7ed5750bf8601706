import Maildrop.Text.Utf8

/-!
# Spans of a header value

A word of a header value is a span of the input from its first octet to the last one
that counts. Blanks and folded line ends inside it belong to it, while those after its
last octet do not: whether they lie inside is known only once a further octet of the
word appears. So a span keeps what it has taken, and beside that the gap of octets
passed over since, which the next octet taken draws in.
-/

namespace Maildrop.Mime

/-- **A span being read**, both parts last octet first. -/
structure Span where
  /-- The octets from the first to the last one that counts. -/
  taken : Bytes
  /-- The octets passed over since. -/
  gap : Bytes := []

namespace Span

/-- Takes an octet, and with it the gap before it. -/
def take (t : Span) (c : UInt8) : Span := ⟨c :: (t.gap ++ t.taken), []⟩

/-- Passes over an octet. -/
def skip (t : Span) (c : UInt8) : Span := { t with gap := c :: t.gap }

/-- Takes an octet into the span being read, or starts one with it. -/
def takeInto (t : Option Span) (c : UInt8) : Span :=
  match t with
  | some t => t.take c
  | none => ⟨[c], []⟩

/-- The octets of the span, first octet first. -/
def octets (t : Span) : Bytes := t.taken.reverse

/-- The octets of the span and of the gap after it. -/
def octetsWithGap (t : Span) : Bytes := (t.gap ++ t.taken).reverse

/-- The text of the span. -/
def text (t : Span) : Text := Utf8.decodeLossy t.octets

end Span

end Maildrop.Mime
