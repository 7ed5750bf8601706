import Maildrop.Bytes

/-!
# The URL-safe base64 form

Three octets are four groups of six bits, and each group is written as one character
of an alphabet of sixty-four that needs no quoting in a URL. Nothing pads the end: one
octet left over takes two characters, two take three.
-/

namespace Maildrop.Base64Url

/-- The character of a group of six bits. -/
def char (n : Nat) : Char :=
  if n < 26 then Char.ofNat (65 + n)
  else if n < 52 then Char.ofNat (71 + n)
  else if n < 62 then Char.ofNat (n - 4)
  else if n = 62 then '-'
  else '_'

/-- **The written form** of a run of octets. -/
def encode : Bytes → List Char
  | a :: b :: c :: s =>
    let n := a.toNat * 65536 + b.toNat * 256 + c.toNat
    char (n / 262144) :: char (n / 4096 % 64) :: char (n / 64 % 64) :: char (n % 64) :: encode s
  | [a, b] =>
    let n := a.toNat * 256 + b.toNat
    [char (n / 1024), char (n / 16 % 64), char (n % 16 * 4)]
  | [a] => [char (a.toNat / 4), char (a.toNat % 4 * 16)]
  | [] => []

end Maildrop.Base64Url
