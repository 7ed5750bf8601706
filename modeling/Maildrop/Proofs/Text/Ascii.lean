import Maildrop.Bytes
import Maildrop.Proofs.Text.Lowercase
import Maildrop.Proofs.Text.Utf8
import Maildrop.Text.Ascii

/-!
# Small letters of ASCII

A text can be made small in all scripts, or in its ASCII letters only. The first does not see
whether the second has been done before (`Maildrop.Text.lowercase_lowerAscii`), and for ASCII
texts the second is enough (`Maildrop.Text.isSmall_of_mem_lowerAscii`). The second can also be
done to the octets of the text, with the same result (`Maildrop.Utf8.map_toLower_encode`).

Of the tables of all scripts this uses no more than what they say about ASCII characters.
-/

namespace Maildrop

namespace Text

/-! ### ASCII characters -/

/-- What holds for the first 128 numbers holds for every ASCII character. -/
theorem forall_ascii {P : Char → Prop} (h : ∀ n < 0x80, P (Char.ofNat n)) {c : Char}
    (hc : c.toNat < 0x80) : P c := by
  rw [← Char.ofNat_toNat c]
  exact h _ hc

/-- Every character stays when ASCII letters are made small, but for 26 letters. -/
theorem lowerAsciiChar_cases (c : Char) :
    lowerAsciiChar c = c ∨ ∃ i < 26, c = Char.ofNat (0x41 + i) := by
  rw [lowerAsciiChar]
  split
  · next h =>
    have hA : 0x41 ≤ c.toNat := h.1
    have hZ : c.toNat ≤ 0x5A := h.2
    refine .inr ⟨c.toNat - 0x41, by omega, ?_⟩
    rw [show 0x41 + (c.toNat - 0x41) = c.toNat by omega, Char.ofNat_toNat]
  · exact .inl rfl

/-- What does not see the case of the 26 letters sees the case of no ASCII letter. -/
theorem apply_lowerAsciiChar {α : Type} {g : Char → α}
    (h : ∀ i < 26, g (lowerAsciiChar (Char.ofNat (0x41 + i))) = g (Char.ofNat (0x41 + i)))
    (c : Char) : g (lowerAsciiChar c) = g c := by
  obtain hc | ⟨i, hi, rfl⟩ := lowerAsciiChar_cases c
  · rw [hc]
  · exact h i hi

/-! ### Small letters -/

theorem lowerChar_lowerAsciiChar (c : Char) : lowerChar (lowerAsciiChar c) = lowerChar c :=
  apply_lowerAsciiChar (by decide) c

/-- Of a table only the ranges that start in ASCII can have an ASCII character. -/
theorem inRanges_ascii {ranges ascii : List (Nat × Nat)}
    (h : (ranges.filter fun r => Nat.ble r.1 0x7F) = ascii) {n : Nat} (hn : n < 0x80) :
    inRanges ranges n = inRanges ascii n := by
  rw [← h, inRanges, inRanges, List.any_filter]
  refine congrArg _ (funext fun r => ?_)
  rw [Bool.eq_iff_iff]
  simp only [Bool.and_eq_true, decide_eq_true_eq, Nat.ble_eq]
  omega

theorem isCased_ascii {c : Char} (hc : c.toNat < 0x80) :
    isCased c = inRanges [(0x41, 0x5A), (0x61, 0x7A)] c.toNat :=
  inRanges_ascii (by decide +kernel) hc

theorem isCaseIgnorable_ascii {c : Char} (hc : c.toNat < 0x80) :
    isCaseIgnorable c =
      inRanges [(0x27, 0x27), (0x2E, 0x2E), (0x3A, 0x3A), (0x5E, 0x5E), (0x60, 0x60)] c.toNat :=
  inRanges_ascii (by decide +kernel) hc

/-- The 26 letters and their small letters are ASCII characters. -/
theorem letters_ascii : ∀ i < 26, (lowerAsciiChar (Char.ofNat (0x41 + i))).toNat < 0x80 ∧
    (Char.ofNat (0x41 + i)).toNat < 0x80 := by
  decide

theorem isCased_lowerAsciiChar (c : Char) : isCased (lowerAsciiChar c) = isCased c := by
  refine apply_lowerAsciiChar (fun i hi => ?_) c
  rw [isCased_ascii (letters_ascii i hi).1, isCased_ascii (letters_ascii i hi).2]
  revert i
  decide

theorem isCaseIgnorable_lowerAsciiChar (c : Char) :
    isCaseIgnorable (lowerAsciiChar c) = isCaseIgnorable c := by
  refine apply_lowerAsciiChar (fun i hi => ?_) c
  rw [isCaseIgnorable_ascii (letters_ascii i hi).1, isCaseIgnorable_ascii (letters_ascii i hi).2]
  revert i
  decide

/-- No ASCII letter is one of the two capitals with rules of their own. -/
theorem lowerAsciiChar_eq_iff {c d : Char} (hd : d = capitalSigma ∨ d = dottedI) :
    lowerAsciiChar c = d ↔ c = d := by
  rw [← decide_eq_decide]
  refine apply_lowerAsciiChar (g := fun x => decide (x = d)) ?_ c
  rcases hd with rfl | rfl <;> decide

theorem startsCased_lowerAscii (t : Text) : startsCased (lowerAscii t) = startsCased t := by
  have hskip : isCaseIgnorable ∘ lowerAsciiChar = isCaseIgnorable :=
    funext isCaseIgnorable_lowerAsciiChar
  have hcased : isCased ∘ lowerAsciiChar = isCased := funext isCased_lowerAsciiChar
  rw [startsCased, lowerAscii, List.dropWhile_map, hskip, List.head?_map, Option.any_map]
  exact congrArg (fun p => (t.dropWhile isCaseIgnorable).head?.any p) hcased

/-- The small form of a character does not depend on the case of ASCII letters. -/
theorem lowerAt_lowerAscii (before : Text) (c : Char) (s : Text) :
    lowerAt (lowerAscii before) (lowerAsciiChar c) (lowerAscii s) = lowerAt before c s := by
  simp only [lowerAt, lowerAsciiChar_eq_iff (.inl rfl), lowerAsciiChar_eq_iff (.inr rfl),
    startsCased_lowerAscii, lowerChar_lowerAsciiChar]

/-- **Making ASCII letters small first makes no difference to the small form of a text.** -/
theorem lowercase_lowerAscii (t : Text) : lowercase (lowerAscii t) = lowercase t := by
  suffices h : ∀ before, lowercaseAfter (lowerAscii before) (lowerAscii t) =
      lowercaseAfter before t from h []
  induction t with
  | nil => exact fun _ => rfl
  | cons c s ih =>
    intro before
    have hs : lowerAscii (c :: s) = lowerAsciiChar c :: lowerAscii s := rfl
    rw [hs, lowercaseAfter_cons, lowercaseAfter_cons, lowerAt_lowerAscii]
    exact congrArg _ (ih (c :: before))

/-- Of the capital letters in the table only the 26 letters are ASCII characters. -/
theorem capitalRanges_ascii :
    (capitalRanges.all fun r => Nat.beq r.first 0x41 && Nat.beq r.last 0x5A ||
      Nat.ble 0x80 r.first) = true := by
  decide +kernel

/-- An ASCII character that is none of the 26 letters is its own small letter. -/
theorem lowerCode_ascii {n : Nat} (hn : n < 0x80) (hletter : n < 0x41 ∨ 0x5A < n) :
    lowerCode n = n := by
  refine lowerCode_of_not_has fun r hr hhas => ?_
  have hrange := List.all_eq_true.mp capitalRanges_ascii r hr
  simp only [Bool.or_eq_true, Bool.and_eq_true, Nat.beq_eq, Nat.ble_eq] at hrange
  obtain ⟨hfirst, hlast, -⟩ := hhas
  omega

/-- An ASCII text whose letters have been made small has small characters only. -/
theorem isSmall_of_mem_lowerAscii {t : Text} (ht : ∀ c ∈ t, c.toNat < 0x80) :
    ∀ x ∈ lowerAscii t, IsSmall x := by
  intro x hx
  obtain ⟨c, hc, rfl⟩ := List.mem_map.mp hx
  obtain ⟨hascii, hletter, hs, hd⟩ := forall_ascii (P := fun c =>
    (lowerAsciiChar c).toNat < 0x80 ∧
      ((lowerAsciiChar c).toNat < 0x41 ∨ 0x5A < (lowerAsciiChar c).toNat) ∧
      lowerAsciiChar c ≠ capitalSigma ∧ lowerAsciiChar c ≠ dottedI) (by decide) (ht c hc)
  exact ⟨by rw [lowerChar, lowerCode_ascii hascii hletter, Char.ofNat_toNat], hs, hd⟩

end Text

/-! ### Octets -/

namespace Utf8

/-- Among the octets of a character that is not ASCII there is no ASCII letter. -/
theorem toLower_of_mem_encodeChar {c : Char} (hc : 0x80 ≤ c.toNat) {b : UInt8}
    (hb : b ∈ encodeChar c) : Ascii.toLower b = b := by
  rw [Ascii.toLower, if_neg]
  intro hcap
  simp only [Ascii.isCapital, Bool.and_eq_true, decide_eq_true_eq, UInt8.le_iff_toNat_le] at hcap
  have hlt : b.toNat < 0x80 := Nat.lt_of_le_of_lt hcap.2 (by decide)
  -- an octet that small would be the character itself
  have hmem : Char.ofNat b.toNat ∈ [c] :=
    ofNat_mem_of_mem_encode (by rwa [encode, List.flatMap_singleton])
      (UInt8.lt_iff_toNat_lt.mpr hlt)
  have hvalid : b.toNat.isValidChar := .inl (by omega)
  rw [← List.mem_singleton.mp hmem, Char.ofNat, dif_pos hvalid] at hc
  exact absurd hlt (Nat.not_lt.mpr hc)

/-- Making ASCII letters small is the same for a character and for its octets. -/
theorem map_toLower_encodeChar (c : Char) :
    (encodeChar c).map Ascii.toLower = encodeChar (Text.lowerAsciiChar c) := by
  rcases Nat.lt_or_ge c.toNat 0x80 with hc | hc
  · exact Text.forall_ascii
      (P := fun c => (encodeChar c).map Ascii.toLower = encodeChar (Text.lowerAsciiChar c))
      (by decide +kernel) hc
  · have hlower : Text.lowerAsciiChar c = c := if_neg fun h => by
      have : c.toNat ≤ 0x5A := h.2
      omega
    rw [hlower]
    exact (List.map_congr_left fun _ => toLower_of_mem_encodeChar hc).trans (List.map_id' _)

/-- **Making ASCII letters small is the same for a text and for its octets.** -/
theorem map_toLower_encode (t : Text) :
    (encode t).map Ascii.toLower = encode (Text.lowerAscii t) := by
  rw [encode, encode, Text.lowerAscii, List.map_flatMap, List.flatMap_map]
  simp only [map_toLower_encodeChar]

end Utf8

end Maildrop
