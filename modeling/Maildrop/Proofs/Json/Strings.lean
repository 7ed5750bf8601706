import Maildrop.Json.Scalar
import Maildrop.Proofs.Text.Utf8

/-!
# Strings as they are written

A string is written piece by piece: a character that stands for itself, an escape of one letter,
or one of four hexadecimal digits (`Maildrop.Json.Piece`). Two escapes of digits may be halves of
one character. So not every string has a text: a half that stands alone is none
(`Maildrop.Json.decode?`).

The reader takes any string off the front of a text, whatever stands behind it. It finds the text
of the string, or fails where there is none (`Maildrop.Json.toOption_readString`); a string that is
only passed over need not have one (`Maildrop.Json.exists_readString_skim`).
-/

namespace Maildrop.Json

/-! ### What is left of a result without its error -/

theorem toOption_map {ε α β : Type} (x : Except ε α) (f : α → β) :
    (x.map f).toOption = x.toOption.map f := by
  cases x <;> rfl

theorem toOption_bind {ε α β : Type} (x : Except ε α) (f : α → Except ε β) :
    (x.bind f).toOption = x.toOption.bind fun a => (f a).toOption := by
  cases x <;> rfl

theorem toOption_mapError {ε ε' α : Type} (x : Except ε α) (f : ε → ε') :
    (x.mapError f).toOption = x.toOption := by
  cases x <;> rfl

/-- A result that is known without its error is a success or not. -/
theorem cases_of_toOption_eq_map {ε α β : Type} {x : Except ε β} {o : Option α} {f : α → β}
    (h : x.toOption = o.map f) :
    (∃ a, x = .ok (f a) ∧ o = some a) ∨ ∃ e, x = .error e ∧ o = none := by
  rcases x with e | b <;> rcases o with _ | a
  · exact .inr ⟨e, rfl, rfl⟩
  · cases h
  · cases h
  · exact .inl ⟨a, congrArg Except.ok (Option.some.inj h), rfl⟩

/-! ### Pieces -/

/-- **A hexadecimal digit** with its value. -/
structure HexDigit where
  char : Char
  value : Nat
  hexValue?_eq : hexValue? char = some value

/-- **Four hexadecimal digits.** -/
structure HexCode where
  first : HexDigit
  second : HexDigit
  third : HexDigit
  fourth : HexDigit

namespace HexCode

def text (h : HexCode) : Text := [h.first.char, h.second.char, h.third.char, h.fourth.char]

def value (h : HexCode) : Nat :=
  ((h.first.value * 16 + h.second.value) * 16 + h.third.value) * 16 + h.fourth.value

end HexCode

/-- **A piece of a string** as it is written. -/
inductive Piece where
  /-- A character that stands for itself. -/
  | plain (c : Char) (quote : c ≠ '\"') (backslash : c ≠ '\\') (control : ¬c.toNat < 0x20)
  /-- An escape of one letter. -/
  | letter (c d : Char) (h : plainEscape? c = some d)
  /-- An escape of four digits. -/
  | code (h : HexCode)

/-- **What a piece stands for**: a character, or half of one. -/
inductive Sense where
  | char (c : Char)
  /-- The upper half of a surrogate pair. -/
  | upper (n : Nat)
  /-- The lower half of a surrogate pair. -/
  | lower (n : Nat)

namespace Piece

/-- A piece as it is written. -/
def text : Piece → Text
  | plain c _ _ _ => [c]
  | letter c _ _ => ['\\', c]
  | code h => '\\' :: 'u' :: h.text

def sense : Piece → Sense
  | plain c _ _ _ => .char c
  | letter _ d _ => .char d
  | code h =>
    if h.value < 0xD800 ∨ 0xE000 ≤ h.value then .char (Char.ofNat h.value)
    else if h.value < 0xDC00 then .upper (h.value - 0xD800)
    else .lower (h.value - 0xDC00)

end Piece

/-- The text of characters and halves: an upper half goes with the lower half behind it, and no
other half is allowed. -/
def join? : List Sense → Option Text
  | [] => some []
  | .char c :: senses => (join? senses).map (c :: ·)
  | .upper n :: .lower m :: senses =>
    (join? senses).map (Char.ofNat (0x10000 + n * 1024 + m) :: ·)
  | _ :: _ => none

/-- **The text that pieces write**, unless there is half of a surrogate pair alone. -/
def decode? (ps : List Piece) : Option Text := join? (ps.map Piece.sense)

/-- What pieces look like behind an opening quote, up to the closing one. -/
def quotedTail (ps : List Piece) : Text := ps.flatMap Piece.text ++ ['\"']

/-- A string as it is written, between quotes. -/
def quoted (ps : List Piece) : Text := '\"' :: quotedTail ps

@[simp] theorem quotedTail_nil (rest : Text) : quotedTail [] ++ rest = '\"' :: rest := rfl

@[simp] theorem quotedTail_cons (p : Piece) (ps : List Piece) (rest : Text) :
    quotedTail (p :: ps) ++ rest = p.text ++ (quotedTail ps ++ rest) := by
  simp [quotedTail]

/-! ### Reading a piece -/

theorem readHex_text (h : HexCode) (rest : Text) :
    readHex (h.text ++ rest) = .ok (h.value, rest) := by
  have hsize : ¬Utf8.size ((h.text ++ rest).take 4) < 4 :=
    Nat.not_lt.mpr (Utf8.length_le_size h.text)
  unfold readHex
  rw [if_neg hsize]
  simp only [HexCode.text, List.cons_append, List.nil_append, HexDigit.hexValue?_eq]
  rfl

variable {care : Care} {done s rest : Text}

theorem readString_quote : readString care done ('\"' :: rest) = .ok (done.reverse, rest) := by
  rw [readString, if_pos rfl]

/-- A character that stands for itself is taken over. -/
theorem readString_plain {c : Char} (quote : c ≠ '\"') (backslash : c ≠ '\\')
    (control : ¬c.toNat < 0x20) :
    readString care done (c :: s) = readString care (c :: done) s := by
  rw [readString, if_neg quote, if_neg backslash, if_neg control]

theorem readString_escape {d : Char} (h : readEscape care s = .ok (d, rest)) :
    readString care done ('\\' :: s) = readString care (d :: done) rest := by
  rw [readString, if_neg (by decide), if_pos rfl]
  split
  · next he => exact absurd (h.symm.trans he) (by simp)
  · next he =>
    obtain ⟨rfl, rfl⟩ := Prod.mk.inj (Except.ok.inj (h.symm.trans he))
    rfl

/-- An escape that is no good is the end of it. -/
theorem readString_escape_error {e : Stop} (h : readEscape care s = .error e) :
    readString care done ('\\' :: s) = .error e := by
  rw [readString, if_neg (by decide), if_pos rfl]
  split
  · next he => rw [← Except.error.inj (h.symm.trans he)]
  · next he => exact absurd (h.symm.trans he) (by simp)

theorem readEscape_letter {c d : Char} (h : plainEscape? c = some d) :
    readEscape care (c :: s) = .ok (d, s) := by
  have hne : c ≠ 'u' := by
    rintro rfl
    cases h
  rw [readEscape, if_neg hne, h]

theorem readEscape_code (h : HexCode) :
    readEscape care ('u' :: (h.text ++ s)) = readCodePoint care (h.text ++ s) := by
  rw [readEscape, if_pos rfl]

/-- A piece that stands for a character is read as it. -/
theorem readString_char {p : Piece} {c : Char} (h : p.sense = .char c) :
    readString .full done (p.text ++ s) = readString .full (c :: done) s := by
  cases p with
  | plain d quote backslash control =>
    obtain rfl := Sense.char.inj h
    exact readString_plain quote backslash control
  | letter d d' hd =>
    obtain rfl := Sense.char.inj h
    exact readString_escape (readEscape_letter hd)
  | code code =>
    have hvalue : (code.value < 0xD800 ∨ 0xE000 ≤ code.value) ∧ Char.ofNat code.value = c := by
      rw [Piece.sense] at h
      split at h
      · next hv => exact ⟨hv, Sense.char.inj h⟩
      · split at h <;> exact absurd h (by simp)
    refine readString_escape ((readEscape_code code).trans ?_)
    rw [readCodePoint, readHex_text]
    dsimp only
    rw [if_neg (by decide), if_neg (by omega), if_pos hvalue.1, hvalue.2]

/-- A half that is read is an escape of digits. -/
theorem Piece.eq_code_of_upper {p : Piece} {n : Nat} (h : p.sense = .upper n) :
    ∃ code : HexCode, p = .code code ∧
      0xD800 ≤ code.value ∧ code.value < 0xDC00 ∧ n = code.value - 0xD800 := by
  cases p with
  | plain c _ _ _ => cases h
  | letter c d _ => cases h
  | code code =>
    rw [sense] at h
    split at h
    · cases h
    · split at h
      · exact ⟨code, rfl, by omega, by assumption, (Sense.upper.inj h).symm⟩
      · cases h

theorem Piece.eq_code_of_lower {p : Piece} {n : Nat} (h : p.sense = .lower n) :
    ∃ code : HexCode, p = .code code ∧
      0xDC00 ≤ code.value ∧ code.value < 0xE000 ∧ n = code.value - 0xDC00 := by
  cases p with
  | plain c _ _ _ => cases h
  | letter c d _ => cases h
  | code code =>
    rw [sense] at h
    split at h
    · cases h
    · split at h
      · cases h
      · exact ⟨code, rfl, by omega, by omega, (Sense.lower.inj h).symm⟩

/-! ### Reading a string -/

/-- **A string that is passed over is read to its end**, whatever its pieces are. -/
theorem exists_readString_skim (ps : List Piece) (done rest : Text) :
    ∃ t, readString .skim done (quotedTail ps ++ rest) = .ok (t, rest) := by
  induction ps generalizing done with
  | nil => exact ⟨_, readString_quote⟩
  | cons p ps ih =>
    -- each piece leaves one character behind
    have hpiece : ∃ c, readString .skim done (p.text ++ (quotedTail ps ++ rest)) =
        readString .skim (c :: done) (quotedTail ps ++ rest) := by
      cases p with
      | plain c quote backslash control => exact ⟨c, readString_plain quote backslash control⟩
      | letter c d h => exact ⟨d, readString_escape (readEscape_letter h)⟩
      | code h =>
        refine ⟨Utf8.replacement, readString_escape ((readEscape_code h).trans ?_)⟩
        rw [readCodePoint, readHex_text]
        rfl
    obtain ⟨c, hpiece⟩ := hpiece
    obtain ⟨t, ht⟩ := ih (c :: done)
    exact ⟨t, by rw [quotedTail_cons, hpiece, ht]⟩

/-- An upper half waits for the lower half behind it. -/
theorem readCodePoint_pair {h : HexCode} (hupper : 0xD800 ≤ h.value ∧ h.value < 0xDC00)
    (h' : HexCode) :
    readCodePoint .full (h.text ++ '\\' :: 'u' :: (h'.text ++ s)) =
      if 0xDC00 ≤ h'.value ∧ h'.value < 0xE000 then
        .ok (Char.ofNat (0x10000 + (h.value - 0xD800) * 1024 + (h'.value - 0xDC00)), s)
      else stop .loneSurrogate s := by
  rw [readCodePoint, readHex_text]
  dsimp only
  rw [if_neg (by decide), if_neg (by omega), if_neg (by omega)]
  simp only [readHex_text]

/-- An upper half and the lower half behind it are read as one character. -/
theorem readString_pair {h h' : HexCode} (hupper : 0xD800 ≤ h.value ∧ h.value < 0xDC00)
    (hlower : 0xDC00 ≤ h'.value ∧ h'.value < 0xE000) :
    readString .full done ((Piece.code h).text ++ ((Piece.code h').text ++ s)) =
      readString .full
        (Char.ofNat (0x10000 + (h.value - 0xD800) * 1024 + (h'.value - 0xDC00)) :: done) s :=
  readString_escape ((readEscape_code h).trans ((readCodePoint_pair hupper h').trans
    (if_pos hlower)))

/-- A lower half is an error where it stands first. -/
theorem readString_lower {h : HexCode} (hlower : 0xDC00 ≤ h.value ∧ h.value < 0xE000) :
    readString .full done ((Piece.code h).text ++ s) = stop .loneSurrogate s := by
  refine readString_escape_error ((readEscape_code h).trans ?_)
  rw [readCodePoint, readHex_text]
  dsimp only
  rw [if_neg (by decide), if_pos hlower]
  rfl

/-- An upper half is an error where no lower half is behind it. -/
theorem exists_readString_upper {h : HexCode} (hupper : 0xD800 ≤ h.value ∧ h.value < 0xDC00)
    {ps : List Piece} (hps : ∀ p ∈ ps.head?, ∀ m, p.sense ≠ .lower m) (done rest : Text) :
    ∃ e, readString .full done ((Piece.code h).text ++ (quotedTail ps ++ rest)) = .error e := by
  -- what is behind the digits is no second escape of digits, or a wrong one
  have halone : ∀ s, (∀ more, s ≠ '\\' :: 'u' :: more) →
      ∃ e, readCodePoint .full (h.text ++ s) = .error e := by
    intro s hs
    rw [readCodePoint, readHex_text]
    dsimp only
    rw [if_neg (by decide), if_neg (by omega), if_neg (by omega)]
    split
    · exact ⟨_, rfl⟩
    · exact ⟨_, rfl⟩
    · next more => exact absurd rfl (hs more)
    · exact ⟨_, rfl⟩
  have hescape : ∃ e, readCodePoint .full (h.text ++ (quotedTail ps ++ rest)) = .error e := by
    rcases ps with _ | ⟨p, ps⟩
    · exact halone _ fun more heq => absurd (List.cons.inj heq).1 (by decide)
    · rw [quotedTail_cons]
      cases p with
      | plain c quote backslash control =>
        exact halone _ fun more heq => backslash (List.cons.inj heq).1
      | letter c d hd =>
        refine halone _ fun more heq => ?_
        obtain ⟨rfl, -⟩ := List.cons.inj (List.cons.inj heq).2
        cases hd
      | code h' =>
        have hother : ¬(0xDC00 ≤ h'.value ∧ h'.value < 0xE000) := fun hlower =>
          hps (.code h') rfl (h'.value - 0xDC00) (by
            rw [Piece.sense, if_neg (by omega), if_neg (by omega)])
        exact ⟨_, (readCodePoint_pair hupper h').trans (if_neg hother)⟩
  obtain ⟨e, he⟩ := hescape
  exact ⟨e, readString_escape_error ((readEscape_code h).trans he)⟩

/-- An upper half has no text where no lower half is behind it. -/
theorem join?_upper {n : Nat} {senses : List Sense} (h : ∀ m, senses.head? ≠ some (.lower m)) :
    join? (.upper n :: senses) = none := by
  rcases senses with _ | ⟨_ | _ | m, senses⟩
  · rfl
  · rfl
  · rfl
  · exact absurd rfl (h m)

/-- **A string is read to its end** as the text that it has, if it has one. -/
theorem toOption_readString : ∀ (ps : List Piece) (done rest : Text),
    (readString .full done (quotedTail ps ++ rest)).toOption =
      (decode? ps).map fun t => (done.reverse ++ t, rest)
  | [], done, rest => by
    rw [quotedTail_nil, readString_quote, decode?, List.map_nil, join?, Option.map_some,
      List.append_nil]
    rfl
  | p :: ps, done, rest => by
    rw [quotedTail_cons, decode?, List.map_cons]
    rcases hp : p.sense with c | n | n
    · rw [readString_char hp, toOption_readString ps (c :: done) rest, join?, decode?]
      rcases join? (ps.map Piece.sense) with _ | t <;> simp
    · obtain ⟨h, rfl, hleast, hmost, hn⟩ := Piece.eq_code_of_upper hp
      by_cases hlower : ∃ q qs m, ps = q :: qs ∧ q.sense = .lower m
      · obtain ⟨q, qs, m, rfl, hq⟩ := hlower
        obtain ⟨h', rfl, hleast', hmost', hm⟩ := Piece.eq_code_of_lower hq
        rw [quotedTail_cons, readString_pair ⟨hleast, hmost⟩ ⟨hleast', hmost'⟩,
          toOption_readString qs _ rest, List.map_cons, hq, join?, decode?,
          hn, hm]
        rcases join? (qs.map Piece.sense) with _ | t <;> simp
      · have halone : ∀ q ∈ ps.head?, ∀ m, q.sense ≠ .lower m := by
          intro q hq m hm
          obtain ⟨qs, rfl⟩ := List.head?_eq_some_iff.mp hq
          exact hlower ⟨q, qs, m, rfl, hm⟩
        obtain ⟨e, he⟩ := exists_readString_upper ⟨hleast, hmost⟩ halone done rest
        rw [he, join?_upper]
        · rfl
        · intro m hm
          rw [List.head?_map, Option.map_eq_some_iff] at hm
          obtain ⟨q, hq, hqm⟩ := hm
          exact halone q hq m hqm
    · obtain ⟨h, rfl, hleast, hmost, hn⟩ := Piece.eq_code_of_lower hp
      rw [readString_lower ⟨hleast, hmost⟩]
      rfl

end Maildrop.Json
