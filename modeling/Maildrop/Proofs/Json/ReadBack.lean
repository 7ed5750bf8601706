import Maildrop.Json.Printer
import Maildrop.Proofs.Json.Written

/-!
# What is printed can be read

The printer writes one of the forms that a value can be written in. A string is written in pieces
that stand for its characters (`Maildrop.Json.exists_quoted`), and an integer as digits, with a sign
if it is below zero (`Maildrop.Json.Spelling.ofInt`). So what is known of the reader for any form
holds for what is printed.
-/

namespace Maildrop.Json

/-! ### Strings -/

theorem hexValue?_hexDigit {n : Nat} (h : n < 16) : hexValue? (hexDigit n) = some n := by
  have hdigits : ∀ n < 16, hexValue? (hexDigit n) = some n := by decide
  exact hdigits n h

/-- A control character is written as its code. -/
def HexCode.ofControl (n : Nat) (h : n < 0x20) : HexCode where
  first := ⟨'0', 0, by decide⟩
  second := ⟨'0', 0, by decide⟩
  third := ⟨hexDigit (n / 16), n / 16, hexValue?_hexDigit (by omega)⟩
  fourth := ⟨hexDigit (n % 16), n % 16, hexValue?_hexDigit (by omega)⟩

/-- **A character is written as a piece** that stands for it. -/
theorem exists_piece (c : Char) : ∃ p : Piece, p.text = escapeChar c ∧ p.sense = .char c := by
  rw [escapeChar]
  -- the seven escapes of one letter
  iterate 7
    split
    · next h => exact ⟨.letter _ c (by rw [h]; rfl), rfl, rfl⟩
  next hquote hbackslash _ _ _ _ _ =>
    split
    · next h =>
      refine ⟨.code (.ofControl c.toNat h), rfl, ?_⟩
      have hvalue : (HexCode.ofControl c.toNat h).value = c.toNat := by
        change ((0 * 16 + 0) * 16 + c.toNat / 16) * 16 + c.toNat % 16 = c.toNat
        omega
      rw [Piece.sense, hvalue, if_pos (.inl (by omega)), Char.ofNat_toNat]
    · next h => exact ⟨.plain c hquote hbackslash h, rfl, rfl⟩

/-- **A printed string is a string of pieces** with the same text. -/
theorem exists_quoted (s : String) :
    ∃ ps, quoted ps = printString s ∧ decode? ps = some s.toList := by
  have hpieces : ∀ t : Text, ∃ ps : List Piece,
      ps.flatMap Piece.text = t.flatMap escapeChar ∧ decode? ps = some t := by
    intro t
    induction t with
    | nil => exact ⟨[], rfl, rfl⟩
    | cons c t ih =>
      obtain ⟨p, htext, hsense⟩ := exists_piece c
      obtain ⟨ps, htexts, hdecode⟩ := ih
      refine ⟨p :: ps, by rw [List.flatMap_cons, List.flatMap_cons, htext, htexts], ?_⟩
      rw [decode?, List.map_cons, hsense, join?, ← decode?, hdecode]
      rfl
  obtain ⟨ps, htext, hdecode⟩ := hpieces s.toList
  exact ⟨ps, by rw [quoted, quotedTail, htext, printString], hdecode⟩

/-! ### Integers -/

theorem isDigitAscii_of_mem_toDigits {c : Char} {n : Nat} (h : c ∈ Nat.toDigits 10 n) :
    Text.isDigitAscii c := by
  have hc := Nat.isDigit_of_mem_toDigits (by decide) (by decide) h
  simp only [Char.isDigit, Bool.and_eq_true, decide_eq_true_eq] at hc
  simp only [Text.isDigitAscii, Bool.and_eq_true, decide_eq_true_eq]
  exact hc

/-- A number is not written with a zero in front. -/
theorem head?_toDigits {n : Nat} (h : 0 < n) : (Nat.toDigits 10 n).head? ≠ some '0' := by
  induction n using Nat.strongRecOn with
  | ind n ih =>
    rw [Nat.toDigits_eq_if (by decide)]
    split
    · next hlt =>
      have hdigit : ∀ n < 10, 0 < n → n.digitChar ≠ '0' := by decide
      simpa using hdigit n hlt h
    · next hge =>
      have hhead : ((Nat.toDigits 10 (n / 10)) ++ [(n % 10).digitChar]).head? =
          (Nat.toDigits 10 (n / 10)).head? := by
        rcases hd : Nat.toDigits 10 (n / 10) with _ | ⟨c, ds⟩
        · exact absurd hd Nat.toDigits_ne_nil
        · rfl
      rw [hhead]
      exact ih (n / 10) (by omega) (by omega)

/-- **How an integer is printed**: with its digits, behind a sign if it is below zero. -/
def Spelling.ofInt (n : Int) : Spelling where
  negative := decide (n < 0)
  whole := Nat.toDigits 10 n.natAbs
  fraction := none
  exponent := none
  isDigits_whole := ⟨Nat.toDigits_ne_nil, fun _ => isDigitAscii_of_mem_toDigits⟩
  head?_whole := by
    rcases Nat.eq_zero_or_pos n.natAbs with h | h
    · exact .inl (by rw [h, Nat.toDigits_zero])
    · exact .inr (head?_toDigits h)
  isDigits_fraction := by simp

theorem Spelling.text_ofInt (n : Int) : (ofInt n).text = (toString n).toList := by
  rw [text, ofInt, fractionText, exponentText, List.append_nil, List.append_nil]
  rcases n with n | n
  · rw [if_neg (by simp)]
    change _ = (toString n).toList
    rw [Nat.toString_eq_ofList_toDigits, String.toList_ofList]
    rfl
  · rw [if_pos (decide_eq_true (Int.negSucc_lt_zero n))]
    change _ = ("-" ++ toString (n + 1)).toList
    rw [String.toList_append, Nat.toString_eq_ofList_toDigits,
      String.toList_ofList (l := Nat.toDigits 10 (n + 1))]
    rfl

/-- What is printed for an integer writes the integer. -/
theorem Spelling.integer?_ofInt (n : Int) : (ofInt n).integer? = some n := by
  rw [integer?, ofInt]
  dsimp only
  rw [Text.decimal_eq, Nat.ofDigitChars_ten_toDigits, if_neg]
  · by_cases h : n < 0
    · rw [if_pos (decide_eq_true h)]
      exact congrArg some (by omega)
    · rw [if_neg (by simpa using h)]
      exact congrArg some (by omega)
  · simp only [Option.isSome_none, Bool.false_eq_true, false_or, decide_eq_true_eq]
    omega

/-! ### Layout -/

/-- A new line with its indentation. -/
def Blank.newline (depth : Nat) : Blank where
  text := Json.newline depth
  allSpace := by
    intro c hc
    rcases List.mem_cons.mp hc with rfl | hc
    · rfl
    · obtain rfl := List.eq_of_mem_replicate hc
      rfl

end Maildrop.Json
