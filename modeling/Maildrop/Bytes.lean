/-!
# Octets and the classes of ASCII

Mail arrives as a list of octets, and most of its grammar speaks of single ASCII
octets: line feeds, blanks, printable characters, hexadecimal digits. This module
names those octets and classes once, together with the two ways in which a reader
looks for a fixed run of octets: at the front (`Maildrop.Bytes.stripPrefix?`) and
at the first place where it occurs (`Maildrop.Bytes.after?`).

A reader consumes its input from the front, so what it returns as the rest is a
suffix of what it was given; the lemmas here say how much shorter.
-/

namespace Maildrop

/-- **A run of octets**, first octet first. -/
abbrev Bytes := List UInt8

/-! ### Single octets -/

namespace Ascii

/-- Horizontal tab. -/
abbrev tab : UInt8 := 0x09

/-- Line feed, which ends a line. -/
abbrev lf : UInt8 := 0x0A

/-- Carriage return. -/
abbrev cr : UInt8 := 0x0D

/-- The space. -/
abbrev space : UInt8 := 0x20

/-- The ASCII octet of a character. -/
abbrev octet (c : Char) : UInt8 := UInt8.ofNat c.toNat

/-- A blank inside a line: space or tab. -/
def isBlank (b : UInt8) : Bool := b == space || b == tab

/-- ASCII white space: tab, line feed, form feed, carriage return and space. The
vertical tab is not among them. -/
def isWhite (b : UInt8) : Bool :=
  b == space || b == tab || b == lf || b == cr || b == 0x0C

/-- The visible ASCII characters, from `!` to `~`. -/
def isGraphic (b : UInt8) : Bool := 0x21 ≤ b && b ≤ 0x7E

/-- The capital letters `A` to `Z`. -/
def isCapital (b : UInt8) : Bool := 0x41 ≤ b && b ≤ 0x5A

/-- A capital letter becomes small; every other octet stays. -/
def toLower (b : UInt8) : UInt8 := if isCapital b then b + 0x20 else b

/-- The value of a hexadecimal digit, in either case. -/
def hexValue? (b : UInt8) : Option UInt8 :=
  if 0x30 ≤ b && b ≤ 0x39 then some (b - 0x30)
  else if 0x41 ≤ b && b ≤ 0x46 then some (b - 0x37)
  else if 0x61 ≤ b && b ≤ 0x66 then some (b - 0x57)
  else none

end Ascii

/-! ### Looking for a fixed run of octets -/

namespace Bytes

/-- What follows `p` at the front of the input, if the input starts with `p`. -/
def stripPrefix? : Bytes → Bytes → Option Bytes
  | [], s => some s
  | _ :: _, [] => none
  | a :: p, b :: s => if a = b then stripPrefix? p s else none

theorem eq_append_of_stripPrefix? {p s r : Bytes} (h : stripPrefix? p s = some r) :
    s = p ++ r := by
  induction p generalizing s with
  | nil => simp_all [stripPrefix?]
  | cons a p ih =>
    cases s with
    | nil => simp [stripPrefix?] at h
    | cons b s =>
      simp only [stripPrefix?] at h
      split at h
      · next hab => simp [hab, ih h]
      · exact absurd h (by simp)

theorem stripPrefix?_append (p s : Bytes) : stripPrefix? p (p ++ s) = some s := by
  induction p with
  | nil => rfl
  | cons a p ih => simp [stripPrefix?, ih]

theorem length_le_of_stripPrefix? {p s r : Bytes} (h : stripPrefix? p s = some r) :
    r.length ≤ s.length := by
  simp [eq_append_of_stripPrefix? h]

/-- What follows the first occurrence of `p` in the input. -/
def after? (p : Bytes) : Bytes → Option Bytes
  | [] => stripPrefix? p []
  | b :: s =>
    match stripPrefix? p (b :: s) with
    | some r => some r
    | none => after? p s

theorem length_le_of_after? {p s r : Bytes} (h : after? p s = some r) :
    r.length ≤ s.length := by
  induction s with
  | nil => exact length_le_of_stripPrefix? h
  | cons b s ih =>
    simp only [after?] at h
    split at h
    · next r' hr =>
      cases h
      exact length_le_of_stripPrefix? hr
    · exact Nat.le_succ_of_le (ih h)

end Bytes

end Maildrop
