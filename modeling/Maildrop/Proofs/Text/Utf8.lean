import Maildrop.Text.Utf8

/-!
# Reading back the octets of a text

The reader of octets finds in the octets of a text the characters of the text and nothing
else (`Maildrop.Utf8.decode?_encode`), so texts with the same octets are the same
(`Maildrop.Utf8.encode_injective`).

The proof follows a character through its octets. The lead octet promises how many are to
follow and holds the highest bits (`Maildrop.Utf8.fresh_lead`); each of the others adds
six bits (`Maildrop.Utf8.step_tail`). The narrower range that some lead octets leave for
the next one excludes exactly the values that are not the number of a character, or that
have a shorter form.
-/

namespace Maildrop.Utf8

theorem toNat_toUInt8 {n : Nat} (h : n < 256) : n.toUInt8.toNat = n := by
  simpa using h

/-! ### One octet -/

/-- The last octet that is due completes a character. -/
theorem step_last {v m : Nat} {least most : UInt8} (hl : least.toNat ≤ 0x80 + m)
    (hm : 0x80 + m ≤ most.toNat) :
    step (some ⟨0, v, least, most⟩) (0x80 + m).toUInt8 =
      ([some (Char.ofNat (v * 64 + m))], none) := by
  have hb : (0x80 + m).toUInt8.toNat = 0x80 + m :=
    toNat_toUInt8 (Nat.lt_of_le_of_lt hm most.toNat_lt)
  rw [step, if_pos (by simp only [UInt8.le_iff_toNat_le, hb]; exact ⟨hl, hm⟩), hb,
    Nat.add_sub_cancel_left]

/-- Any other octet that is due adds six bits to the value. -/
theorem step_tail {k v m : Nat} {least most : UInt8} (hl : least.toNat ≤ 0x80 + m)
    (hm : 0x80 + m ≤ most.toNat) :
    step (some ⟨k + 1, v, least, most⟩) (0x80 + m).toUInt8 =
      ([], some ⟨k, v * 64 + m, 0x80, 0xBF⟩) := by
  have hb : (0x80 + m).toUInt8.toNat = 0x80 + m :=
    toNat_toUInt8 (Nat.lt_of_le_of_lt hm most.toNat_lt)
  rw [step, if_pos (by simp only [UInt8.le_iff_toNat_le, hb]; exact ⟨hl, hm⟩), hb,
    Nat.add_sub_cancel_left]

/-- A lead octet gives nothing yet. -/
theorem fresh_lead {b : UInt8} {d : Due} (h : Due.ofLead? b = some d) :
    step none b = ([], some d) := by
  have hb : ¬b < 0x80 := by
    intro hlt
    rw [UInt8.lt_iff_toNat_lt] at hlt
    rw [Due.ofLead?, if_pos (Nat.lt_trans hlt (by decide))] at h
    exact absurd h (by simp)
  rw [step, fresh, if_neg hb, h]

/-- The lead octet of two. -/
theorem ofLead?_two {n : Nat} (hl : 2 ≤ n) (hm : n < 32) :
    Due.ofLead? (0xC0 + n).toUInt8 = some ⟨0, n, 0x80, 0xBF⟩ := by
  rw [Due.ofLead?, toNat_toUInt8 (by omega), if_neg (by omega), if_pos (by omega),
    Nat.add_sub_cancel_left]

/-- The lead octet of three leaves for the next one what is neither overlong nor a
surrogate. -/
theorem ofLead?_three {n : Nat} (hm : n < 16) :
    Due.ofLead? (0xE0 + n).toUInt8 =
      some ⟨1, n, if n = 0 then 0xA0 else 0x80, if n = 0xD then 0x9F else 0xBF⟩ := by
  have hb : (0xE0 + n).toUInt8.toNat = 0xE0 + n := toNat_toUInt8 (by omega)
  rw [Due.ofLead?, hb, if_neg (by omega), if_neg (by omega)]
  by_cases h0 : n = 0
  · subst h0
    rfl
  · rw [if_neg (by omega), if_neg h0]
    by_cases hD : n = 0xD
    · subst hD
      rfl
    · rw [if_neg (by omega), if_neg hD, if_pos (by omega), Nat.add_sub_cancel_left]

/-- The lead octet of four leaves for the next one what is neither overlong nor too
large. -/
theorem ofLead?_four {n : Nat} (hm : n < 5) :
    Due.ofLead? (0xF0 + n).toUInt8 =
      some ⟨2, n, if n = 0 then 0x90 else 0x80, if n = 4 then 0x8F else 0xBF⟩ := by
  obtain rfl | rfl | rfl | rfl | rfl : n = 0 ∨ n = 1 ∨ n = 2 ∨ n = 3 ∨ n = 4 := by omega
  all_goals rfl

/-! ### One character -/

/-- The number of a character is no surrogate and not too large. -/
theorem toNat_scalar (c : Char) :
    c.toNat < 0xD800 ∨ 0xDFFF < c.toNat ∧ c.toNat < 0x110000 := c.valid

/-- **The octets of a character are read as the character.** -/
theorem scalarsFrom_encodeChar (c : Char) (s : Bytes) :
    scalarsFrom none (encodeChar c ++ s) = some c :: scalarsFrom none s := by
  have hv := toNat_scalar c
  have hc : Char.ofNat c.toNat = c := Char.ofNat_toNat c
  rw [encodeChar]
  -- what is left to show is about the number of the character, one, two, three or four octets
  generalize hn : c.toNat = n at hv hc
  split
  · next h1 =>
    have hb : n.toUInt8.toNat = n := toNat_toUInt8 (by omega)
    have hstep : step none n.toUInt8 = ([some (Char.ofNat n)], none) := by
      rw [step, fresh, if_pos (by rw [UInt8.lt_iff_toNat_lt, hb]; exact h1), hb]
    rw [List.singleton_append, scalarsFrom, hstep, hc]
    rfl
  · split
    · next h1 h2 =>
      have hlead := fresh_lead (ofLead?_two (n := n / 64) (by omega) (by omega))
      have hlast : step (some ⟨0, n / 64, 0x80, 0xBF⟩) (0x80 + n % 64).toUInt8 = _ :=
        step_last (by change 0x80 ≤ _; omega) (by change _ ≤ 0xBF; omega)
      rw [Nat.div_add_mod'] at hlast
      simp only [List.cons_append, List.nil_append, scalarsFrom, hlead, hlast, hc]
    · split
      · next h1 h2 h3 =>
        have hlead := fresh_lead (ofLead?_three (n := n / 4096) (by omega))
        -- the first of the others is in the narrower range
        have htail : step (some ⟨1, n / 4096, if n / 4096 = 0 then 0xA0 else 0x80,
            if n / 4096 = 0xD then 0x9F else 0xBF⟩) (0x80 + n / 64 % 64).toUInt8 = _ :=
          step_tail (by split <;> simp only [UInt8.reduceToNat] <;> omega)
            (by split <;> simp only [UInt8.reduceToNat] <;> omega)
        have hlast : step (some ⟨0, n / 4096 * 64 + n / 64 % 64, 0x80, 0xBF⟩)
            (0x80 + n % 64).toUInt8 = _ :=
          step_last (by change 0x80 ≤ _; omega) (by change _ ≤ 0xBF; omega)
        rw [show (n / 4096 * 64 + n / 64 % 64) * 64 + n % 64 = n by omega] at hlast
        simp only [List.cons_append, List.nil_append, scalarsFrom, hlead, htail, hlast, hc]
      · next h1 h2 h3 =>
        have hlead := fresh_lead (ofLead?_four (n := n / 262144) (by omega))
        have htail : step (some ⟨2, n / 262144, if n / 262144 = 0 then 0x90 else 0x80,
            if n / 262144 = 4 then 0x8F else 0xBF⟩) (0x80 + n / 4096 % 64).toUInt8 = _ :=
          step_tail (by split <;> simp only [UInt8.reduceToNat] <;> omega)
            (by split <;> simp only [UInt8.reduceToNat] <;> omega)
        have htail' : step (some ⟨1, n / 262144 * 64 + n / 4096 % 64, 0x80, 0xBF⟩)
            (0x80 + n / 64 % 64).toUInt8 = _ :=
          step_tail (by change 0x80 ≤ _; omega) (by change _ ≤ 0xBF; omega)
        have hlast : step
            (some ⟨0, (n / 262144 * 64 + n / 4096 % 64) * 64 + n / 64 % 64, 0x80, 0xBF⟩)
            (0x80 + n % 64).toUInt8 = _ :=
          step_last (by change 0x80 ≤ _; omega) (by change _ ≤ 0xBF; omega)
        rw [show ((n / 262144 * 64 + n / 4096 % 64) * 64 + n / 64 % 64) * 64 + n % 64 = n by omega]
          at hlast
        simp only [List.cons_append, List.nil_append, scalarsFrom, hlead, htail, htail', hlast, hc]

/-! ### Texts -/

theorem encode_append (t u : Text) : encode (t ++ u) = encode t ++ encode u := List.flatMap_append

/-- The octets of a text are read as the text whatever follows them. -/
theorem scalars_encode_append (t : Text) (s : Bytes) :
    scalars (encode t ++ s) = t.map some ++ scalars s := by
  rw [scalars, scalars]
  induction t with
  | nil => rfl
  | cons c t ih =>
    rw [encode, List.flatMap_cons, List.append_assoc, scalarsFrom_encodeChar, ← encode, ih,
      List.map_cons, List.cons_append]

/-- **The octets of a text are read as the text.** -/
theorem scalars_encode (t : Text) : scalars (encode t) = t.map some := by
  have h := scalars_encode_append t []
  rwa [List.append_nil, show scalars [] = [] from rfl, List.append_nil] at h

theorem decode?_encode (t : Text) : decode? (encode t) = some t := by
  rw [decode?, scalars_encode]
  induction t with
  | nil => rfl
  | cons c t ih =>
    rw [List.map_cons, List.mapM_cons, ih]
    rfl

/-- **Texts with the same octets are the same.** -/
theorem encode_injective : Function.Injective encode := fun s t h => by
  have hs := decode?_encode s
  rw [h, decode?_encode] at hs
  exact (Option.some.inj hs).symm

/-- A text whose octets start with those of another text starts with that. -/
theorem isPrefix_of_encode {p t : Text} {s : Bytes} (h : encode t = encode p ++ s) : p <+: t := by
  have hscalars : t.map some = p.map some ++ scalars s := by
    rw [← scalars_encode, h, scalars_encode_append]
  rw [List.prefix_iff_eq_take]
  refine (List.map_inj_right fun _ _ => Option.some.inj).mp ?_
  rw [List.map_take, hscalars, ← List.length_map some, List.take_left]

/-- An ASCII octet of a text is one of its characters; the octets of all other characters
are larger. -/
theorem ofNat_mem_of_mem_encode {t : Text} {b : UInt8} (hb : b ∈ encode t) (h : b < 0x80) :
    Char.ofNat b.toNat ∈ t := by
  obtain ⟨c, hc, hbc⟩ := List.mem_flatMap.mp hb
  rw [UInt8.lt_iff_toNat_lt] at h
  change b.toNat < 0x80 at h
  suffices b.toNat = c.toNat by rwa [this, Char.ofNat_toNat]
  have hv := toNat_scalar c
  rw [encodeChar] at hbc
  split at hbc
  · next h1 => rw [List.mem_singleton.mp hbc, toNat_toUInt8 (by omega)]
  · -- an octet that is not below 0x80 is none of those that are left
    have hbig : ∀ m, 0x80 ≤ m → m < 256 → b ≠ m.toUInt8 := by
      rintro m hl hm rfl
      rw [toNat_toUInt8 hm] at h
      omega
    split at hbc
    · next h1 h2 =>
      simp only [List.mem_cons, List.not_mem_nil, or_false] at hbc
      rcases hbc with rfl | rfl <;> exact absurd rfl (hbig _ (by omega) (by omega))
    · split at hbc
      · next h1 h2 h3 =>
        simp only [List.mem_cons, List.not_mem_nil, or_false] at hbc
        rcases hbc with rfl | rfl | rfl <;> exact absurd rfl (hbig _ (by omega) (by omega))
      · next h1 h2 h3 =>
        simp only [List.mem_cons, List.not_mem_nil, or_false] at hbc
        rcases hbc with rfl | rfl | rfl | rfl <;> exact absurd rfl (hbig _ (by omega) (by omega))

/-- A text with the octet NUL in it has the character NUL in it. -/
theorem zero_mem_encode_iff {t : Text} : (0 : UInt8) ∈ encode t ↔ '\x00' ∈ t := by
  constructor
  · exact fun h => ofNat_mem_of_mem_encode h (by decide)
  · exact fun h => List.mem_flatMap.mpr ⟨'\x00', h, by decide⟩

/-! ### Sizes -/

/-- The octets of a character and those behind it. -/
theorem size_cons (c : Char) (s : Text) : size (c :: s) = charSize c + size s := by
  rw [size, encode, List.flatMap_cons, List.length_append]
  rfl

theorem charSize_pos (c : Char) : 0 < charSize c := by
  rw [charSize, encodeChar]
  repeat' split
  all_goals exact Nat.succ_pos _

/-- Every character has an octet at least. -/
theorem length_le_size (t : Text) : t.length ≤ size t := by
  induction t with
  | nil => exact Nat.le_refl 0
  | cons c t ih =>
    rw [List.length_cons, size_cons, Nat.add_comm]
    exact Nat.add_le_add (charSize_pos c) ih

end Maildrop.Utf8
