import Maildrop.Bytes

/-!
# Codecs

A *codec* writes values of a type as octets in such a way that they can be read back
from the front of any longer run (`Maildrop.Codec.decode_encode`). The law is part of
the codec, so codecs of parts make codecs of the whole without more ado: of pairs, of
lists, of optional values, and of any type whose values are made of such parts.
-/

namespace Maildrop

/-- **A codec.** -/
structure Codec (α : Type) where
  encode : α → Bytes
  /-- The value at the front, and what follows it. -/
  decode : Bytes → Option (α × Bytes)
  decode_encode : ∀ (a : α) (rest : Bytes), decode (encode a ++ rest) = some (a, rest)

namespace Codec

variable {α β : Type}

/-! ### Numbers -/

/-- A number in base 128, least digit first; every octet but the last is marked. -/
def encodeNat (n : Nat) : Bytes :=
  if n < 128 then [UInt8.ofNat n] else UInt8.ofNat (n % 128 + 128) :: encodeNat (n / 128)

/-- Reads a number in base 128. -/
def decodeNat : Bytes → Option (Nat × Bytes)
  | [] => none
  | b :: s =>
    if b.toNat < 128 then some (b.toNat, s)
    else (decodeNat s).map fun r => (r.1 * 128 + (b.toNat - 128), r.2)

theorem decodeNat_encodeNat (n : Nat) (rest : Bytes) :
    decodeNat (encodeNat n ++ rest) = some (n, rest) := by
  fun_induction encodeNat n with
  | case1 n h =>
    have hn : (UInt8.ofNat n).toNat = n := by rw [UInt8.toNat_ofNat']; omega
    simp [decodeNat, hn, h]
  | case2 n h ih =>
    have hn : (UInt8.ofNat (n % 128 + 128)).toNat = n % 128 + 128 := by
      rw [UInt8.toNat_ofNat']; omega
    have hd : n / 128 * 128 + (n % 128 + 128 - 128) = n := by omega
    simp only [List.cons_append, decodeNat, hn, ih, Option.map_some, hd]
    rw [if_neg (by omega)]

/-- The codec of numbers. -/
def nat : Codec Nat := ⟨encodeNat, decodeNat, decodeNat_encodeNat⟩

/-! ### Parts and wholes -/

/-- The codec of values that are written as others are. -/
def via (c : Codec α) (form : β → α) (value? : α → Option β)
    (h : ∀ b, value? (form b) = some b) : Codec β where
  encode b := c.encode (form b)
  decode s := (c.decode s).bind fun r => (value? r.1).map fun b => (b, r.2)
  decode_encode b rest := by simp [c.decode_encode, h]

/-- The codec of values that are others in another form. -/
def iso (c : Codec α) (form : β → α) (value : α → β) (h : ∀ b, value (form b) = b) : Codec β :=
  c.via form (fun a => some (value a)) fun b => by rw [h]

/-- The codec of pairs. -/
def pair (c : Codec α) (d : Codec β) : Codec (α × β) where
  encode p := c.encode p.1 ++ d.encode p.2
  decode s := (c.decode s).bind fun r => (d.decode r.2).map fun q => ((r.1, q.1), q.2)
  decode_encode p rest := by simp [c.decode_encode, d.decode_encode]

/-- Reads as many values as are asked for. -/
def decodeMany (c : Codec α) : Nat → Bytes → Option (List α × Bytes)
  | 0, s => some ([], s)
  | n + 1, s => (c.decode s).bind fun r => (c.decodeMany n r.2).map fun q => (r.1 :: q.1, q.2)

theorem decodeMany_flatMap (c : Codec α) (as : List α) (rest : Bytes) :
    c.decodeMany as.length (as.flatMap c.encode ++ rest) = some (as, rest) := by
  induction as with
  | nil => rfl
  | cons a as ih => simp [decodeMany, c.decode_encode, ih]

/-- The codec of lists: their length, then their items. -/
def list (c : Codec α) : Codec (List α) where
  encode as := encodeNat as.length ++ as.flatMap c.encode
  decode s := (decodeNat s).bind fun r => c.decodeMany r.1 r.2
  decode_encode as rest := by simp [decodeNat_encodeNat, decodeMany_flatMap]

/-- The codec of optional values. -/
def option (c : Codec α) : Codec (Option α) :=
  c.list.via Option.toList
    (fun
      | [] => some none
      | [a] => some (some a)
      | _ => none)
    fun a => by cases a <;> rfl

/-! ### Texts and octets -/

/-- The codec of octets: their number, then themselves. -/
def bytes : Codec Bytes where
  encode s := encodeNat s.length ++ s
  decode s := (decodeNat s).bind fun r =>
    if r.2.length < r.1 then none else some (r.2.take r.1, r.2.drop r.1)
  decode_encode s rest := by
    simp only [List.append_assoc, decodeNat_encodeNat, Option.bind_some, List.length_append]
    rw [if_neg (by omega), List.take_left, List.drop_left]

/-- The codec of characters. -/
def char : Codec Char := nat.iso Char.toNat Char.ofNat Char.ofNat_toNat

/-- The codec of strings. -/
def string : Codec String := char.list.iso String.toList String.ofList fun _ => String.ofList_toList

/-- The number that stands for an integer: an even one if it is not negative. -/
def natOfInt : Int → Nat
  | .ofNat n => 2 * n
  | .negSucc n => 2 * n + 1

/-- The integer that a number stands for. -/
def intOfNat (n : Nat) : Int := if n % 2 = 0 then .ofNat (n / 2) else .negSucc (n / 2)

theorem intOfNat_natOfInt (n : Int) : intOfNat (natOfInt n) = n := by
  cases n with
  | ofNat n =>
    simp only [natOfInt, intOfNat, Nat.mul_mod_right, if_true]
    rw [Nat.mul_div_cancel_left n (by omega)]
  | negSucc n =>
    have h : (2 * n + 1) / 2 = n := by omega
    simp only [natOfInt, intOfNat, h]
    rw [if_neg (by omega)]

/-- The codec of integers. -/
def int : Codec Int := nat.iso natOfInt intOfNat intOfNat_natOfInt

end Codec

end Maildrop
