import Maildrop.Text.Blank

/-!
# The ASCII letters of a text

Protocol words (header names, media types, charsets) are compared without regard to
the case of their ASCII letters only; every other character stands for itself.
-/

namespace Maildrop.Text

/-- The small ASCII letter of a capital one; every other character stays. -/
def lowerAsciiChar (c : Char) : Char :=
  if 'A' ≤ c ∧ c ≤ 'Z' then Char.ofNat (c.toNat + 32) else c

/-- The text with its ASCII capitals made small. -/
def lowerAscii (t : Text) : Text := t.map lowerAsciiChar

/-- An ASCII letter or digit. -/
def isAlphanumAscii (c : Char) : Bool :=
  ('0' ≤ c && c ≤ '9') || ('A' ≤ c && c ≤ 'Z') || ('a' ≤ c && c ≤ 'z')

/-- An ASCII digit. -/
def isDigitAscii (c : Char) : Bool := '0' ≤ c && c ≤ '9'

/-- The number that ASCII digits write; each character counts as a digit. -/
def decimal (t : Text) : Nat := t.foldl (fun n c => 10 * n + (c.toNat - 48)) 0

end Maildrop.Text
