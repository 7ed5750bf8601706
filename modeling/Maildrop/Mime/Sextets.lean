import Maildrop.Bytes

/-!
# Reading base64

Every four characters of base64 stand for three octets. Readers differ in what they
allow between the characters and in what they make of a group left incomplete, so
this module only collects groups: `push` adds the six bits of a character, `flush`
closes an incomplete group with the octets that it determines.
-/

namespace Maildrop.Mime

/-- **Groups of six bits being collected.** -/
structure Sextets where
  /-- The octets completed so far, last octet first. -/
  done : Bytes := []
  /-- The six-bit values of the incomplete group, first one first. -/
  group : List UInt8 := []

namespace Sextets

/-- The six bits that a character of the base64 alphabet stands for. -/
def value? (b : UInt8) : Option UInt8 :=
  if 0x41 ≤ b && b ≤ 0x5A then some (b - 0x41)
  else if 0x61 ≤ b && b ≤ 0x7A then some (b - 0x47)
  else if 0x30 ≤ b && b ≤ 0x39 then some (b + 4)
  else if b == 0x2B then some 62
  else if b == 0x2F then some 63
  else none

/-- The octets that a group of values determines, last octet first. -/
def octets : List UInt8 → Bytes
  | [a] => [a <<< 2]
  | [a, b] => [(a <<< 2) ||| (b >>> 4)]
  | [a, b, c] => [(b <<< 4) ||| (c >>> 2), (a <<< 2) ||| (b >>> 4)]
  | [a, b, c, d] => [(c <<< 6) ||| d, (b <<< 4) ||| (c >>> 2), (a <<< 2) ||| (b >>> 4)]
  | _ => []

/-- Closes the group that is being collected. -/
def flush (q : Sextets) : Sextets := ⟨octets q.group ++ q.done, []⟩

/-- Adds a value, and closes the group with its fourth. -/
def push (q : Sextets) (v : UInt8) : Sextets :=
  if q.group.length < 3 then { q with group := q.group ++ [v] }
  else flush { q with group := q.group ++ [v] }

/-- The completed octets, first octet first. -/
def bytes (q : Sextets) : Bytes := q.done.reverse

end Sextets

end Maildrop.Mime
