import Maildrop.Bytes
import Maildrop.Text.Blank

/-!
# The octets of a text

A text travels as UTF-8. Reading octets back goes through one reader that says, in
order, which scalar values the octets hold and where they hold none: every maximal
run of octets that starts like a scalar value and does not become one counts as a
single gap (`Maildrop.Utf8.scalars`). The two public readers differ only in what they
make of a gap: `Maildrop.Utf8.decodeLossy` writes U+FFFD for it, and
`Maildrop.Utf8.decode?` refuses the input.

The reader keeps what the octets so far promise: how many continuation octets are
still due, the value collected, and the range in which the next octet has to lie. The
range is narrower than usual only after a lead octet whose shortest or highest forms
are excluded, so overlong forms, surrogates and values past U+10FFFF never arise.
-/

namespace Maildrop.Utf8

/-- The character written for octets that hold no scalar value. -/
abbrev replacement : Char := Char.ofNat 0xFFFD

/-- **What is still due** after the lead octet of a scalar value. -/
structure Due where
  /-- How many more octets belong to it, less one. -/
  more : Nat
  /-- The value of the bits read so far. -/
  value : Nat
  /-- The least next octet that continues it. -/
  least : UInt8
  /-- The greatest next octet that continues it. -/
  most : UInt8

/-- What the first octet of a scalar value promises; `none` if no scalar value of
several octets starts with it. -/
def Due.ofLead? (b : UInt8) : Option Due :=
  let n := b.toNat
  if n < 0xC2 then none
  else if n < 0xE0 then some ⟨0, n - 0xC0, 0x80, 0xBF⟩
  else if n = 0xE0 then some ⟨1, 0, 0xA0, 0xBF⟩
  else if n = 0xED then some ⟨1, 0xD, 0x80, 0x9F⟩
  else if n < 0xF0 then some ⟨1, n - 0xE0, 0x80, 0xBF⟩
  else if n = 0xF0 then some ⟨2, 0, 0x90, 0xBF⟩
  else if n < 0xF4 then some ⟨2, n - 0xF0, 0x80, 0xBF⟩
  else if n = 0xF4 then some ⟨2, 4, 0x80, 0x8F⟩
  else none

/-- What an octet gives where nothing is due: the values it completes, and what it
promises. -/
def fresh (b : UInt8) : List (Option Char) × Option Due :=
  if b < 0x80 then ([some (Char.ofNat b.toNat)], none)
  else
    match Due.ofLead? b with
    | some d => ([], some d)
    | none => ([none], none)

/-- What an octet gives after the octets before it. An octet that does not continue
what is due closes a gap and is then read afresh. -/
def step : Option Due → UInt8 → List (Option Char) × Option Due
  | none, b => fresh b
  | some d, b =>
    if d.least ≤ b ∧ b ≤ d.most then
      let v := d.value * 64 + (b.toNat - 0x80)
      match d.more with
      | 0 => ([some (Char.ofNat v)], none)
      | k + 1 => ([], some ⟨k, v, 0x80, 0xBF⟩)
    else (none :: (fresh b).1, (fresh b).2)

/-- The scalar values the octets hold after octets that leave `due`. -/
def scalarsFrom (due : Option Due) : Bytes → List (Option Char)
  | [] => if due.isSome then [none] else []
  | b :: s => (step due b).1 ++ scalarsFrom (step due b).2 s

/-- **The scalar values that the octets hold**, with `none` for each gap. -/
def scalars (s : Bytes) : List (Option Char) := scalarsFrom none s

/-- The text of the octets, with U+FFFD in each gap. -/
def decodeLossy (s : Bytes) : Text := (scalars s).map (·.getD replacement)

/-- The text of the octets, if they hold nothing but scalar values. -/
def decode? (s : Bytes) : Option Text := (scalars s).mapM id

/-- The octets of one character. -/
def encodeChar (c : Char) : Bytes :=
  let n := c.toNat
  if n < 0x80 then [n.toUInt8]
  else if n < 0x800 then [(0xC0 + n / 64).toUInt8, (0x80 + n % 64).toUInt8]
  else if n < 0x10000 then
    [(0xE0 + n / 4096).toUInt8, (0x80 + n / 64 % 64).toUInt8, (0x80 + n % 64).toUInt8]
  else
    [(0xF0 + n / 262144).toUInt8, (0x80 + n / 4096 % 64).toUInt8,
      (0x80 + n / 64 % 64).toUInt8, (0x80 + n % 64).toUInt8]

/-- **The octets of a text.** -/
def encode (t : Text) : Bytes := t.flatMap encodeChar

/-- The number of octets of a character. -/
def charSize (c : Char) : Nat := (encodeChar c).length

/-- The number of octets of a text. -/
def size (t : Text) : Nat := (encode t).length

end Maildrop.Utf8
