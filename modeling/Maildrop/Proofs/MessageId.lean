import Maildrop.MessageId
import Mathlib.Data.Nat.Digits.Defs
import Mathlib.Tactic.LinearCombination

/-!
# Every content has a well-formed id

The id of a content has the shape that ids are to have, whatever the content is
(`Maildrop.MessageId.isValid_ofContent`): a digest has thirty-two octets, thirty-two
octets are written as forty-three characters, and all characters that are written are
those of ids.

The written form can be read again (`Maildrop.Base64Url.decode?_encode`), so two contents
have the same id only if they have the same digest
(`Maildrop.MessageId.ofContent_eq_iff`). What is read is what the form says in base
sixty-four: octets and characters, with the point before the first of them, are the same
fraction (`Maildrop.Base64Url.numeral_sextets`). So a last group that is not full is filled up
with zeros.
-/

namespace Maildrop

namespace Base64Url

/-- Three octets are four characters, and what is left over takes one more than it has. -/
theorem length_encode (s : Bytes) : (encode s).length = (4 * s.length + 2) / 3 := by
  fun_induction encode s with
  | case1 a b c s n ih =>
    simp only [List.length_cons, ih]
    omega
  | case2 a b => simp
  | case3 a => simp
  | case4 => rfl

/-- Every character of the written form may stand in an id. -/
theorem isIdChar_char (n : Nat) : MessageId.isIdChar (char n) := by
  by_cases hn : n < 63
  · have hall : ∀ n < 63, MessageId.isIdChar (char n) := by decide
    exact hall n hn
  · rw [char, if_neg (by omega), if_neg (by omega), if_neg (by omega), if_neg (by omega)]
    decide

/-- What is written is made of characters of groups. -/
theorem exists_char_of_mem_encode {s : Bytes} {c : Char} (h : c ∈ encode s) : ∃ n, char n = c := by
  fun_induction encode s with
  | case1 a b c s n ih =>
    simp only [List.mem_cons] at h
    rcases h with rfl | rfl | rfl | rfl | h
    · exact ⟨_, rfl⟩
    · exact ⟨_, rfl⟩
    · exact ⟨_, rfl⟩
    · exact ⟨_, rfl⟩
    · exact ih h
  | case2 a b n =>
    simp only [List.mem_cons, List.not_mem_nil, or_false] at h
    rcases h with rfl | rfl | rfl <;> exact ⟨_, rfl⟩
  | case3 a =>
    simp only [List.mem_cons, List.not_mem_nil, or_false] at h
    rcases h with rfl | rfl <;> exact ⟨_, rfl⟩
  | case4 => exact absurd h List.not_mem_nil

theorem all_isIdChar_encode (s : Bytes) : (encode s).all MessageId.isIdChar := by
  refine List.all_eq_true.mpr fun c hc => ?_
  obtain ⟨n, rfl⟩ := exists_char_of_mem_encode hc
  exact isIdChar_char n

/-- **The alphabet**: the characters of the groups of six bits, in their order. -/
def alphabet : List Char :=
  "ABCDEFGHIJKLMNOPQRSTUVWXYZabcdefghijklmnopqrstuvwxyz0123456789-_".toList

/-- A group of six bits is written as the letter of its number. -/
theorem getElem?_alphabet {n : Nat} (h : n < 64) : alphabet[n]? = some (char n) := by
  have hall : ∀ n < 64, alphabet[n]? = some (char n) := by decide
  exact hall n h

/-- Every character of the written form is a letter of the alphabet. -/
theorem mem_alphabet_of_mem_encode {s : Bytes} {c : Char} (h : c ∈ encode s) : c ∈ alphabet := by
  obtain ⟨n, rfl⟩ := exists_char_of_mem_encode h
  by_cases hn : n < 64
  · exact List.mem_of_getElem? (getElem?_alphabet hn)
  · have hlast : char n = '_' := by
      rw [char, if_neg (by omega), if_neg (by omega), if_neg (by omega), if_neg (by omega)]
    rw [hlast]
    decide

/-! ### Reading the written form -/

/-- The group of six bits that a character stands for. -/
def value? (c : Char) : Option Nat :=
  if 'A' ≤ c ∧ c ≤ 'Z' then some (c.toNat - 65)
  else if 'a' ≤ c ∧ c ≤ 'z' then some (c.toNat - 71)
  else if '0' ≤ c ∧ c ≤ '9' then some (c.toNat + 4)
  else if c = '-' then some 62
  else if c = '_' then some 63
  else none

/-- **Reads the written form**: four characters are three octets, three are two, and two
are one. -/
def decode? : List Char → Option Bytes
  | c₁ :: c₂ :: c₃ :: c₄ :: s => do
    let n := (← value? c₁) * 262144 + (← value? c₂) * 4096 + (← value? c₃) * 64 + (← value? c₄)
    let rest ← decode? s
    some ((n / 65536).toUInt8 :: (n / 256 % 256).toUInt8 :: (n % 256).toUInt8 :: rest)
  | [c₁, c₂, c₃] => do
    let n := (← value? c₁) * 1024 + (← value? c₂) * 16 + (← value? c₃) / 4
    some [(n / 256).toUInt8, (n % 256).toUInt8]
  | [c₁, c₂] => do
    let n := (← value? c₁) * 4 + (← value? c₂) / 16
    some [n.toUInt8]
  | [_] => none
  | [] => some []

/-- Every group of six bits can be told from its character. -/
theorem value?_char {n : Nat} (h : n < 64) : value? (char n) = some n := by
  have hall : ∀ n < 64, value? (char n) = some n := by decide
  exact hall n h

/-- An octet is told by its number. -/
theorem toUInt8_eq {a : UInt8} {n : Nat} (h : n = a.toNat) : n.toUInt8 = a := by
  rw [h]
  exact UInt8.ofNat_toNat

/-- **What has been written can be read.** -/
theorem decode?_encode (s : Bytes) : decode? (encode s) = some s := by
  fun_induction encode s with
  | case1 a b c s n ih =>
    have ha := a.toNat_lt
    have hb := b.toNat_lt
    have hc := c.toNat_lt
    simp only [decode?, ih, value?_char (show n / 262144 < 64 by omega),
      value?_char (show n / 4096 % 64 < 64 by omega), value?_char (show n / 64 % 64 < 64 by omega),
      value?_char (show n % 64 < 64 by omega), Option.bind_eq_bind, Option.bind_some]
    -- the four groups make up the number again, and its three parts are the octets
    rw [toUInt8_eq (a := a) (by omega), toUInt8_eq (a := b) (by omega),
      toUInt8_eq (a := c) (by omega)]
  | case2 a b n =>
    have ha := a.toNat_lt
    have hb := b.toNat_lt
    simp only [decode?, value?_char (show n / 1024 < 64 by omega),
      value?_char (show n / 16 % 64 < 64 by omega), value?_char (show n % 16 * 4 < 64 by omega),
      Option.bind_eq_bind, Option.bind_some]
    rw [toUInt8_eq (a := a) (by omega), toUInt8_eq (a := b) (by omega)]
  | case3 a =>
    have ha := a.toNat_lt
    simp only [decode?, value?_char (show a.toNat / 4 < 64 by omega),
      value?_char (show a.toNat % 4 * 16 < 64 by omega), Option.bind_eq_bind, Option.bind_some]
    rw [toUInt8_eq (a := a) (by omega)]
  | case4 => rfl

/-- Different octets are written differently. -/
theorem encode_injective : Function.Injective encode := fun s t h => by
  have := decode?_encode s
  rw [h, decode?_encode] at this
  exact (Option.some.inj this).symm

/-! ### The written form as a number -/

/-- The number that digits write in a base, the highest digit first. -/
def numeral (base : Nat) (ds : List Nat) : Nat := Nat.ofDigits base ds.reverse

theorem numeral_nil (base : Nat) : numeral base [] = 0 := rfl

theorem numeral_cons (base d : Nat) (ds : List Nat) :
    numeral base (d :: ds) = d * base ^ ds.length + numeral base ds := by
  simp only [numeral, List.reverse_cons, Nat.ofDigits_append, Nat.ofDigits_singleton,
    List.length_reverse]
  ring

/-- The groups of six bits that characters stand for. -/
def sextets (t : List Char) : List Nat := t.map fun c => (value? c).getD 0

theorem sextets_cons {n : Nat} (h : n < 64) (t : List Char) :
    sextets (char n :: t) = n :: sextets t := by
  rw [sextets, List.map_cons, value?_char h]
  rfl

/-- **Octets and the characters that they are written as are the same fraction**, the octets in
base 256 and the characters in base 64. -/
theorem numeral_sextets (s : Bytes) :
    numeral 64 (sextets (encode s)) * 256 ^ s.length =
      numeral 256 (s.map UInt8.toNat) * 64 ^ (encode s).length := by
  fun_induction encode s with
  | case1 a b c s n ih =>
    have ha := a.toNat_lt
    have hb := b.toNat_lt
    have hc := c.toNat_lt
    have hparts : n / 262144 * 262144 + n / 4096 % 64 * 4096 + n / 64 % 64 * 64 + n % 64 = n := by
      omega
    have hlength : (sextets (encode s)).length = (encode s).length := by
      rw [sextets, List.length_map]
    rw [sextets_cons (by omega), sextets_cons (by omega), sextets_cons (by omega),
      sextets_cons (by omega)]
    simp only [numeral_cons, List.map_cons, List.length_cons, List.length_map, hlength]
    -- the four groups are the three octets, and 64 ^ 4 is 256 ^ 3
    linear_combination 16777216 * ih + 16777216 * 64 ^ (encode s).length * 256 ^ s.length * hparts
  | case2 a b n =>
    have ha := a.toNat_lt
    have hb := b.toNat_lt
    rw [sextets_cons (by omega), sextets_cons (by omega), sextets_cons (by omega)]
    simp only [numeral_cons, numeral_nil, sextets, List.map_cons, List.map_nil, List.length_cons,
      List.length_nil]
    omega
  | case3 a =>
    have ha := a.toNat_lt
    rw [sextets_cons (by omega), sextets_cons (by omega)]
    simp only [numeral_cons, numeral_nil, sextets, List.map_cons, List.map_nil, List.length_cons,
      List.length_nil]
    omega
  | case4 => rfl

end Base64Url

/-- **Every content has a well-formed id.** -/
theorem MessageId.isValid_ofContent (raw : Bytes) : isValid (ofContent raw) := by
  rw [isValid, ofContent, String.toList_ofList, Base64Url.length_encode, Sha256.length_digest,
    Base64Url.all_isIdChar_encode]
  rfl

/-- **Two contents have the same id only if they have the same digest.** -/
theorem MessageId.ofContent_eq_iff (x y : Bytes) :
    ofContent x = ofContent y ↔ Sha256.digest x = Sha256.digest y :=
  ⟨fun h => Base64Url.encode_injective (String.ofList_injective h), fun h => by
    rw [ofContent, ofContent, h]⟩

/-- **An id is its digest as a number**, with two zero bits behind it. -/
theorem MessageId.numeral_ofContent (raw : Bytes) :
    Base64Url.numeral 64 (Base64Url.sextets (ofContent raw).toList) =
      4 * Base64Url.numeral 256 ((Sha256.digest raw).map UInt8.toNat) := by
  have h := Base64Url.numeral_sextets (Sha256.digest raw)
  rw [Base64Url.length_encode, Sha256.length_digest] at h
  have hpow : 64 ^ ((4 * 32 + 2) / 3) = 4 * 256 ^ 32 := by norm_num
  rw [hpow, ← mul_assoc, mul_comm (Base64Url.numeral 256 _)] at h
  rw [ofContent, String.toList_ofList]
  exact Nat.eq_of_mul_eq_mul_right (by norm_num) h

end Maildrop
