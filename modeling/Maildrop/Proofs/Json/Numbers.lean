import Maildrop.Json.Scalar
import Maildrop.Proofs.Text.Decimal

/-!
# Numbers as they are written

A number is written with a whole part, which starts with a zero only if it is one, and maybe a
sign, a fraction and an exponent (`Maildrop.Json.Spelling`). The reader takes any of them off the
front of a text (`Maildrop.Json.readNumeral_text`). A number has no end of its own, so it must not
be followed by what could go on with it (`Maildrop.Json.EndsNumber`).

A number is an integer if nothing but a sign goes with the whole part, and minus zero is none
(`Maildrop.Json.Spelling.integer?`). The reader counts digits as long as there is room for them in
64 bits, so of the integers it knows those that fit, and among them all of 32 bits
(`Maildrop.Json.Spelling.filter_integer?`).
-/

namespace Maildrop.Json

open Text (IsDigits IsSigned32)

/-! ### Spellings -/

/-- **An exponent** as it is written. -/
structure Exponent where
  mark : Char
  /-- The sign, if there is one. -/
  sign : Text
  digits : Text
  mark_eq : mark = 'e' ∨ mark = 'E'
  sign_eq : sign = [] ∨ sign = ['+'] ∨ sign = ['-']
  isDigits : IsDigits digits

/-- **A number** as it is written. -/
structure Spelling where
  negative : Bool
  /-- The digits before the point. -/
  whole : Text
  /-- The digits behind the point. -/
  fraction : Option Text
  exponent : Option Exponent
  isDigits_whole : IsDigits whole
  head?_whole : whole = ['0'] ∨ whole.head? ≠ some '0'
  isDigits_fraction : ∀ ds, fraction = some ds → IsDigits ds

/-- A point and the digits behind it, if there are any. -/
def fractionText : Option Text → Text
  | some ds => '.' :: ds
  | none => []

/-- An exponent as it is written, if there is one. -/
def exponentText : Option Exponent → Text
  | some e => e.mark :: (e.sign ++ e.digits)
  | none => []

namespace Spelling

/-- A number as it is written. -/
def text (n : Spelling) : Text :=
  (if n.negative then ['-'] else []) ++
    (n.whole ++ (fractionText n.fraction ++ exponentText n.exponent))

/-- The parts of a number that count. -/
def numeral (n : Spelling) : Numeral where
  negative := n.negative
  whole := n.whole
  fraction := n.fraction.getD []
  exponent := n.exponent.map fun e => (decide (e.sign = ['-']), e.digits)

/-- **The integer that a number writes**, if it has neither a fraction nor an exponent. Minus zero
is none. -/
def integer? (n : Spelling) : Option Int :=
  if n.fraction.isSome ∨ n.exponent.isSome ∨ n.negative = true ∧ Text.decimal n.whole = 0 then none
  else some (if n.negative then -(Text.decimal n.whole : Int) else Text.decimal n.whole)

end Spelling

/-! ### The ends of numbers -/

/-- **The text does not go on with a number.** -/
def EndsNumber (rest : Text) : Prop :=
  ∀ c, rest.head? = some c → ¬Text.isDigitAscii c ∧ c ≠ '.' ∧ c ≠ 'e' ∧ c ≠ 'E'

/-- The text does not go on with digits. -/
def EndsDigits (rest : Text) : Prop := ∀ c, rest.head? = some c → ¬Text.isDigitAscii c

variable {care : Care} {rest : Text}

theorem EndsNumber.endsDigits (h : EndsNumber rest) : EndsDigits rest := fun c hc => (h c hc).1

theorem endsDigits_cons {c : Char} (h : Text.isDigitAscii c = false) : EndsDigits (c :: rest) := by
  intro d hd
  obtain rfl := Option.some.inj hd
  simp [h]

theorem endsDigits_exponentText (exponent : Option Exponent) (h : EndsNumber rest) :
    EndsDigits (exponentText exponent ++ rest) := by
  rcases exponent with _ | e
  · exact h.endsDigits
  · refine endsDigits_cons ?_
    rcases e.mark_eq with h | h <;> rw [h] <;> decide

theorem endsDigits_fractionText (fraction : Option Text) (exponent : Option Exponent)
    (h : EndsNumber rest) :
    EndsDigits (fractionText fraction ++ (exponentText exponent ++ rest)) := by
  rcases fraction with _ | ds
  · exact endsDigits_exponentText exponent h
  · exact endsDigits_cons (by decide)

theorem takeWhile_digits {ds : Text} (hds : ∀ c ∈ ds, Text.isDigitAscii c)
    (hrest : EndsDigits rest) :
    (ds ++ rest).takeWhile Text.isDigitAscii = ds ∧
      (ds ++ rest).dropWhile Text.isDigitAscii = rest := by
  have hstop : rest.takeWhile Text.isDigitAscii = [] ∧
      rest.dropWhile Text.isDigitAscii = rest := by
    rcases rest with _ | ⟨c, rest⟩
    · exact ⟨rfl, rfl⟩
    · have hc := hrest c rfl
      exact ⟨List.takeWhile_cons_of_neg hc, List.dropWhile_cons_of_neg hc⟩
  rw [List.takeWhile_append_of_pos hds, List.dropWhile_append_of_pos hds, hstop.1, hstop.2,
    List.append_nil]
  exact ⟨rfl, rfl⟩

/-! ### Reading a number -/

theorem readWhole_digits {ds : Text} (hds : IsDigits ds)
    (hzero : ds = ['0'] ∨ ds.head? ≠ some '0') (hrest : EndsDigits rest) :
    readWhole care (ds ++ rest) = .ok (ds, rest) := by
  by_cases heq : ds = ['0']
  · rw [heq, List.singleton_append, readWhole, if_neg]
    rcases rest with _ | ⟨c, rest⟩
    · simp
    · simpa using hrest c rfl
  · obtain ⟨htake, hdrop⟩ := takeWhile_digits hds.2 hrest
    have hhead := hzero.resolve_left heq
    rw [readWhole]
    · rw [htake, hdrop, if_neg]
      simpa using hds.1
    · intro more hmore
      rcases ds with _ | ⟨c, ds⟩
      · exact hds.1 rfl
      · obtain ⟨rfl, -⟩ := List.cons.inj hmore
        exact hhead rfl

theorem readFraction_fractionText {fraction : Option Text}
    (hfraction : ∀ ds, fraction = some ds → IsDigits ds) (exponent : Option Exponent)
    (hrest : EndsNumber rest) :
    readFraction care (fractionText fraction ++ (exponentText exponent ++ rest)) =
      .ok (fraction.getD [], exponentText exponent ++ rest) := by
  rcases fraction with _ | ds
  · rw [fractionText, List.nil_append, readFraction, Option.getD_none]
    intro more heq
    rcases exponent with _ | e
    · obtain rfl : rest = '.' :: more := heq
      exact (hrest '.' rfl).2.1 rfl
    · have hpoint : e.mark = '.' := (List.cons.inj heq).1
      rcases e.mark_eq with h | h <;> exact absurd (h.symm.trans hpoint) (by decide)
  · have hds := hfraction ds rfl
    obtain ⟨htake, hdrop⟩ := takeWhile_digits hds.2 (endsDigits_exponentText exponent hrest)
    rw [fractionText, List.cons_append, readFraction, htake, hdrop, if_neg, Option.getD_some]
    simpa using hds.1

/-- The digits of an exponent are behind its sign, if there is one. -/
theorem readExponent_digits {mark : Char} (hmark : mark = 'e' ∨ mark = 'E') {s ds : Text}
    (hds : IsDigits ds) (hrest : EndsDigits rest)
    (hs : (if s.head? = some '-' ∨ s.head? = some '+' then s.tail else s) = ds ++ rest) :
    readExponent care (mark :: s) = .ok (some (decide (s.head? = some '-'), ds), rest) := by
  obtain ⟨htake, hdrop⟩ := takeWhile_digits hds.2 hrest
  rw [readExponent, if_pos hmark]
  dsimp only
  rw [hs, htake, hdrop, if_neg]
  simpa using hds.1

theorem readExponent_exponentText (exponent : Option Exponent) (hrest : EndsNumber rest) :
    readExponent care (exponentText exponent ++ rest) =
      .ok (exponent.map fun e => (decide (e.sign = ['-']), e.digits), rest) := by
  rcases exponent with _ | e
  · rcases rest with _ | ⟨c, rest⟩
    · rfl
    · exact if_neg (not_or.mpr (hrest c rfl).2.2)
  · rw [exponentText, List.cons_append, List.append_assoc]
    rcases e.sign_eq with h | h | h
    · -- no sign is a digit
      have hhead : (e.digits ++ rest).head? ≠ some '-' ∧ (e.digits ++ rest).head? ≠ some '+' := by
        obtain ⟨c, ds, hds⟩ := List.exists_cons_of_ne_nil e.isDigits.1
        have hc := e.isDigits.2 c (by simp [hds])
        rw [hds]
        constructor <;>
        · intro heq
          obtain rfl := Option.some.inj heq
          exact absurd hc (by decide)
      rw [h, List.nil_append, readExponent_digits e.mark_eq e.isDigits hrest.endsDigits
        (if_neg (not_or.mpr hhead)), Option.map_some, h, decide_eq_false hhead.1]
      rfl
    · rw [h, readExponent_digits e.mark_eq e.isDigits hrest.endsDigits rfl, Option.map_some, h]
      rfl
    · rw [h, readExponent_digits e.mark_eq e.isDigits hrest.endsDigits rfl, Option.map_some, h]
      rfl

/-- **A number is read to its end** as the parts that it has. -/
theorem readNumeral_text (n : Spelling) (hrest : EndsNumber rest) :
    readNumeral care (n.text ++ rest) = .ok (n.numeral, rest) := by
  have hwhole : readWhole care (n.whole ++ (fractionText n.fraction ++
      (exponentText n.exponent ++ rest))) = .ok (n.whole, _) :=
    readWhole_digits n.isDigits_whole n.head?_whole
      (endsDigits_fractionText n.fraction n.exponent hrest)
  obtain ⟨c, ds, hds⟩ := List.exists_cons_of_ne_nil n.isDigits_whole.1
  have hsign : c ≠ '-' := by
    rintro rfl
    exact absurd (n.isDigits_whole.2 '-' (by simp [hds])) (by decide)
  have hhead : ((n.text ++ rest).head? = some '-') = (n.negative = true) := by
    rw [Spelling.text, hds]
    cases n.negative <;> simp [hsign]
  have htail : (if n.negative = true then (n.text ++ rest).tail else n.text ++ rest) =
      n.whole ++ (fractionText n.fraction ++ (exponentText n.exponent ++ rest)) := by
    rw [Spelling.text]
    cases n.negative <;> simp
  unfold readNumeral
  simp only [hhead]
  rw [htail, hwhole]
  dsimp only
  rw [readFraction_fractionText n.isDigits_fraction n.exponent hrest]
  dsimp only
  rw [readExponent_exponentText n.exponent hrest]
  dsimp only
  rw [Bool.decide_eq_true, Spelling.numeral]

/-- A number that is kept must not be too large, unless it is an integer. -/
theorem readNumber_text (n : Spelling) (hrest : EndsNumber rest) :
    readNumber care (n.text ++ rest) =
      if care = .full && n.numeral.integer?.isNone && n.numeral.overflows then
        stop .numberRange rest
      else .ok (n.numeral.number, rest) := by
  rw [readNumber, readNumeral_text n hrest]

/-- A number has a digit or a sign in front. -/
theorem Spelling.text_starts (n : Spelling) :
    ∃ c s, n.text = c :: s ∧ (c = '-' || Text.isDigitAscii c) = true := by
  rw [text]
  cases n.negative with
  | true => exact ⟨'-', _, rfl, rfl⟩
  | false =>
    obtain ⟨c, ds, hds⟩ := List.exists_cons_of_ne_nil n.isDigits_whole.1
    refine ⟨c, _, by rw [hds]; rfl, ?_⟩
    rw [n.isDigits_whole.2 c (by simp [hds]), Bool.or_true]

/-- A number is read as a value: no word starts with a digit or a sign. -/
theorem readScalar_number (n : Spelling) :
    readScalar care (n.text ++ rest) =
      (readNumber care (n.text ++ rest)).map fun r => (.number r.1, r.2) := by
  obtain ⟨c, s, htext, hc⟩ := n.text_starts
  have hletters : c ≠ 'n' ∧ c ≠ 't' ∧ c ≠ 'f' := by
    refine ⟨?_, ?_, ?_⟩ <;>
    · rintro rfl
      exact absurd hc (by decide)
  rw [htext, List.cons_append, readScalar, if_neg hletters.1, if_neg hletters.2.1,
    if_neg hletters.2.2, if_pos hc]

/-! ### Integers -/

/-- Digits that write a number of at most 64 bits are all counted. -/
theorem leadingDigits_eq {ds : Text} {n k : Nat}
    (h : Nat.ofDigitChars 10 ds n < 0x10000000000000000) :
    leadingDigits n k ds = (Nat.ofDigitChars 10 ds n, k + ds.length) := by
  induction ds generalizing n k with
  | nil => rfl
  | cons c ds ih =>
    rw [Nat.ofDigitChars_cons] at h ⊢
    have hc : 10 * n + (c.toNat - 48) < 0x10000000000000000 :=
      Nat.lt_of_le_of_lt (Text.le_ofDigitChars ds _) h
    have hrest : leadingDigits (10 * n + (c.toNat - 48)) (k + 1) ds = _ := ih h
    rw [leadingDigits, if_pos hc, hrest, List.length_cons, Nat.add_assoc, Nat.add_comm 1]
    rfl

/-- Of other digits, some are left over. -/
theorem leadingDigits_lt {ds : Text} {n k : Nat} (hn : n < 0x10000000000000000)
    (h : 0x10000000000000000 ≤ Nat.ofDigitChars 10 ds n) :
    (leadingDigits n k ds).2 < k + ds.length := by
  induction ds generalizing n k with
  | nil => exact absurd h (Nat.not_le.mpr hn)
  | cons c ds ih =>
    rw [Nat.ofDigitChars_cons] at h
    rw [leadingDigits, List.length_cons]
    split
    · next hm =>
      have hrest := ih (k := k + 1) hm h
      omega
    · exact Nat.lt_add_of_pos_right (Nat.succ_pos _)

/-- **The reader knows the integers of 64 bits**, of those below zero the ones with a bit for the
sign. -/
theorem Spelling.integer?_numeral (n : Spelling) :
    n.numeral.integer? =
      n.integer?.filter fun v => decide (-0x8000000000000000 ≤ v ∧ v < 0x10000000000000000) := by
  have hfraction : (n.fraction.getD []).isEmpty = !n.fraction.isSome := by
    rcases h : n.fraction with _ | ds
    · rfl
    · simpa using (n.isDigits_fraction ds h).1
  have hexponent : (n.exponent.map fun e => (decide (e.sign = ['-']), e.digits)).isSome =
      n.exponent.isSome := Option.isSome_map
  rw [Numeral.integer?, integer?, numeral]
  dsimp only
  rw [hfraction, hexponent, Text.decimal_eq]
  by_cases hparts : n.fraction.isSome = true ∨ n.exponent.isSome = true
  · rw [if_pos (by simpa using .inl hparts), if_pos (or_assoc.mp (.inl hparts)), Option.filter_none]
  · obtain ⟨hpoint, hmark⟩ := not_or.mp hparts
    rw [Bool.not_eq_true] at hpoint hmark
    rw [hpoint, hmark]
    generalize hw : Nat.ofDigitChars 10 n.whole 0 = w
    refine Option.ext fun v => ?_
    rw [Option.filter_eq_some_iff]
    rcases Nat.lt_or_ge w 0x10000000000000000 with hfits | hlarge
    · rw [leadingDigits_eq (hw ▸ hfits), hw, Nat.zero_add]
      cases n.negative <;> simp <;> omega
    · have hlt := leadingDigits_lt (k := 0) (by decide) (hw ▸ hlarge)
      rw [Nat.zero_add] at hlt
      rw [if_pos (by simpa using Nat.ne_of_lt hlt)]
      cases n.negative <;> simp <;> omega

/-- **Of the integers of 32 bits the reader knows all.** -/
theorem Spelling.filter_integer? (n : Spelling) :
    n.numeral.integer?.filter (fun v => decide (IsSigned32 v)) =
      n.integer?.filter fun v => decide (IsSigned32 v) := by
  rw [integer?_numeral, Option.filter_filter]
  congr 1
  funext v
  rw [← Bool.decide_and]
  refine decide_eq_decide.mpr ⟨fun h => h.2, fun h => ⟨?_, h⟩⟩
  obtain ⟨hleast, hmost⟩ := h
  omega

end Maildrop.Json
