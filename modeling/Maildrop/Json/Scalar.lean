import Maildrop.Json.Fault
import Maildrop.Json.Value
import Maildrop.Text.Ascii

/-!
# Reading JSON words, numbers and strings

The values without parts. A value is read with full care if it is kept, and only
skimmed if it is passed over: then its form is checked, but neither the range of a
number nor the pairing of surrogates is.

Every reader returns what is left of the text, which is shorter than what it was given.
-/

namespace Maildrop.Json

/-- **How carefully a value is read.** -/
inductive Care where
  /-- It is kept. -/
  | full
  /-- It is passed over. -/
  | skim
  deriving DecidableEq, Repr

/-- A stop behind what has been read. -/
def stop {α : Type} (fault : Fault) (rest : Text) : Except Stop α := .error ⟨fault, rest, false⟩

/-- A stop at the first character that is left. -/
def stopAt {α : Type} (fault : Fault) (rest : Text) : Except Stop α := .error ⟨fault, rest, true⟩

/-- White space between the parts of a text. -/
def isSpace (c : Char) : Bool := c == ' ' || c == '\t' || c == '\n' || c == '\r'

/-- The text from the first character that is no white space. -/
def skipSpace (s : Text) : Text := s.dropWhile isSpace

/-! ### Words -/

/-- Reads the rest of a word. -/
def readWord : Text → Text → Except Stop Text
  | [], s => .ok s
  | _ :: _, [] => stop .endBeforeValue []
  | c :: word, d :: s => if c = d then readWord word s else stop .expectedWord s

/-! ### Strings -/

/-- The value of a hexadecimal digit. -/
def hexValue? (c : Char) : Option Nat :=
  if '0' ≤ c ∧ c ≤ '9' then some (c.toNat - 48)
  else if 'A' ≤ c ∧ c ≤ 'F' then some (c.toNat - 55)
  else if 'a' ≤ c ∧ c ≤ 'f' then some (c.toNat - 87)
  else none

/-- Reads four hexadecimal digits, for which four octets have to be left. -/
def readHex (s : Text) : Except Stop (Nat × Text) :=
  if Utf8.size (s.take 4) < 4 then stop .endInString []
  else
    match s with
    | a :: b :: c :: d :: rest =>
      match hexValue? a, hexValue? b, hexValue? c, hexValue? d with
      | some x, some y, some z, some w => .ok (((x * 16 + y) * 16 + z) * 16 + w, rest)
      | _, _, _, _ => stop .badEscape rest
    | _ => stop .badEscape []

/-- Reads the digits of an escape `\u`, and those of a second one if the first is the
upper half of a surrogate pair. -/
def readCodePoint (care : Care) (s : Text) : Except Stop (Char × Text) :=
  match readHex s with
  | .error e => .error e
  | .ok (n, rest) =>
    if care = .skim then .ok (Utf8.replacement, rest)
    else if 0xDC00 ≤ n ∧ n < 0xE000 then stop .loneSurrogate rest
    else if n < 0xD800 ∨ 0xE000 ≤ n then .ok (Char.ofNat n, rest)
    else
      match rest with
      | [] | ['\\'] => stop .endInString []
      | '\\' :: 'u' :: more =>
        match readHex more with
        | .error e => .error e
        | .ok (m, rest) =>
          if 0xDC00 ≤ m ∧ m < 0xE000 then
            .ok (Char.ofNat (0x10000 + (n - 0xD800) * 1024 + (m - 0xDC00)), rest)
          else stop .loneSurrogate rest
      | _ :: more => stop .unpairedEscape more

/-- The character of an escape of one letter. -/
def plainEscape? : Char → Option Char
  | '\"' => some '\"'
  | '\\' => some '\\'
  | '/' => some '/'
  | 'b' => some '\x08'
  | 'f' => some '\x0c'
  | 'n' => some '\n'
  | 'r' => some '\r'
  | 't' => some '\t'
  | _ => none

/-- Reads an escape whose backslash has been read. -/
def readEscape (care : Care) : Text → Except Stop (Char × Text)
  | [] => stop .endInString []
  | c :: s =>
    if c = 'u' then readCodePoint care s
    else
      match plainEscape? c with
      | some d => .ok (d, s)
      | none => stop .badEscape s

theorem length_lt_of_readHex {s rest : Text} {n : Nat} (h : readHex s = .ok (n, rest)) :
    rest.length < s.length := by
  unfold readHex at h
  split at h
  · exact absurd h (by simp [stop])
  · split at h
    · split at h
      · obtain ⟨-, rfl⟩ := Prod.mk.inj (Except.ok.inj h)
        simp only [List.length_cons]
        omega
      · exact absurd h (by simp [stop])
    · exact absurd h (by simp [stop])

theorem length_lt_of_readCodePoint {care : Care} {s rest : Text} {c : Char}
    (h : readCodePoint care s = .ok (c, rest)) : rest.length < s.length := by
  unfold readCodePoint at h
  split at h
  · exact absurd h (by simp)
  · next n first hfirst =>
    have hlt := length_lt_of_readHex hfirst
    split at h
    · obtain ⟨-, rfl⟩ := Prod.mk.inj (Except.ok.inj h)
      exact hlt
    · split at h
      · exact absurd h (by simp [stop])
      · split at h
        · obtain ⟨-, rfl⟩ := Prod.mk.inj (Except.ok.inj h)
          exact hlt
        · -- the upper half of a pair, which a second escape has to complete
          split at h
          · exact absurd h (by simp [stop])
          · exact absurd h (by simp [stop])
          · next more =>
            simp only [List.length_cons] at hlt
            split at h
            · exact absurd h (by simp)
            · next m second hsecond =>
              have hlt' := length_lt_of_readHex hsecond
              split at h
              · obtain ⟨-, rfl⟩ := Prod.mk.inj (Except.ok.inj h)
                omega
              · exact absurd h (by simp [stop])
          · exact absurd h (by simp [stop])

theorem length_lt_of_readEscape {care : Care} {s rest : Text} {c : Char}
    (h : readEscape care s = .ok (c, rest)) : rest.length < s.length := by
  unfold readEscape at h
  split at h
  · exact absurd h (by simp [stop])
  · split at h
    · exact Nat.lt_succ_of_lt (length_lt_of_readCodePoint h)
    · split at h
      · obtain ⟨-, rfl⟩ := Prod.mk.inj (Except.ok.inj h)
        exact Nat.lt_succ_self _
      · exact absurd h (by simp [stop])

/-- Reads a string whose opening quote and characters `done`, last one first, have been
read. -/
def readString (care : Care) (done : Text) : Text → Except Stop (Text × Text)
  | [] => stop .endInString []
  | c :: s =>
    if c = '\"' then .ok (done.reverse, s)
    else if c = '\\' then
      match h : readEscape care s with
      | .error e => .error e
      | .ok (d, rest) =>
        have := length_lt_of_readEscape h
        readString care (d :: done) rest
    else if c.toNat < 0x20 then stop .controlCharacter s
    else readString care (c :: done) s
termination_by s => s.length

theorem length_lt_of_readString {care : Care} {done s t rest : Text}
    (h : readString care done s = .ok (t, rest)) : rest.length < s.length := by
  fun_induction readString care done s with
  | case1 => exact absurd h (by simp [stop])
  | case2 done s =>
    obtain ⟨-, rfl⟩ := Prod.mk.inj (Except.ok.inj h)
    exact Nat.lt_succ_self _
  | case3 => exact absurd h (by simp)
  | case4 done s d more _ hlt _ ih => exact Nat.lt_succ_of_lt (Nat.lt_trans (ih h) hlt)
  | case5 => exact absurd h (by simp [stop])
  | case6 done c s _ _ _ ih => exact Nat.lt_succ_of_lt (ih h)

/-! ### Numbers -/

/-- **A number as it is written.** -/
structure Numeral where
  negative : Bool
  /-- The digits before the point. -/
  whole : Text
  /-- The digits behind it; none without a point. -/
  fraction : Text := []
  /-- The sign and the digits of the exponent. -/
  exponent : Option (Bool × Text) := none

/-- A number that lacks a digit: one that is kept may only have been cut off. -/
def missingDigit {α : Type} (care : Care) (rest : Text) : Except Stop α :=
  if rest.isEmpty && care = .full then stop .endBeforeValue []
  else stop .badNumber rest.tail

/-- Reads the digits before the point: a zero alone, or digits that do not start with
one. -/
def readWhole (care : Care) (s : Text) : Except Stop (Text × Text) :=
  match s with
  | '0' :: rest =>
    if rest.head?.any Text.isDigitAscii then stopAt .badNumber rest else .ok (['0'], rest)
  | _ =>
    let digits := s.takeWhile Text.isDigitAscii
    if digits.isEmpty then missingDigit care s else .ok (digits, s.dropWhile Text.isDigitAscii)

/-- Reads a point and digits, if there is a point. -/
def readFraction (care : Care) (s : Text) : Except Stop (Text × Text) :=
  match s with
  | '.' :: rest =>
    let digits := rest.takeWhile Text.isDigitAscii
    if digits.isEmpty then
      if rest.isEmpty && care = .full then stopAt .endBeforeValue [] else stopAt .badNumber rest
    else .ok (digits, rest.dropWhile Text.isDigitAscii)
  | _ => .ok ([], s)

/-- Reads an exponent, if there is one. -/
def readExponent (care : Care) (s : Text) : Except Stop (Option (Bool × Text) × Text) :=
  match s with
  | [] => .ok (none, s)
  | e :: rest =>
    if e = 'e' ∨ e = 'E' then
      let sign := rest.head?
      let rest := if sign = some '-' ∨ sign = some '+' then rest.tail else rest
      let digits := rest.takeWhile Text.isDigitAscii
      if digits.isEmpty then missingDigit care rest
      else .ok (some (sign = some '-', digits), rest.dropWhile Text.isDigitAscii)
    else .ok (none, s)

/-- Reads a number. -/
def readNumeral (care : Care) (s : Text) : Except Stop (Numeral × Text) :=
  let negative := s.head? = some '-'
  match readWhole care (if negative then s.tail else s) with
  | .error e => .error e
  | .ok (whole, rest) =>
    match readFraction care rest with
    | .error e => .error e
    | .ok (fraction, rest) =>
      match readExponent care rest with
      | .error e => .error e
      | .ok (exponent, rest) => .ok (⟨negative, whole, fraction, exponent⟩, rest)

/-- The number that the first digits write behind the digits of `n`, as long as it has at
most 64 bits, and how many digits there are in it if `n` has `k`. -/
def leadingDigits (n k : Nat) : Text → Nat × Nat
  | [] => (n, k)
  | c :: s =>
    let m := 10 * n + (c.toNat - 48)
    if m < 0x10000000000000000 then leadingDigits m (k + 1) s else (n, k)

/-- The nearest number of fifty-three significant bits; of two, the even one. -/
def roundToFloat (n : Nat) : Nat :=
  let unit := Nat.pow 2 (n.log2 - 52)
  let q := n / unit
  let r := n % unit
  if unit < 2 * r ∨ (unit = 2 * r ∧ q % 2 = 1) then (q + 1) * unit else q * unit

/-- The least number that is rounded to no float of 64 bits. -/
def floatLimit : Nat := Nat.pow 2 1024 - Nat.pow 2 970

/-- Whether a number is too large for a float. It is computed as floats are: as many
leading digits as make an integer of 64 bits, times a power of ten, both of them
rounded. -/
def Numeral.overflows (m : Numeral) : Bool :=
  let (n, k) := leadingDigits 0 0 (m.whole ++ m.fraction)
  let power : Int :=
    (match m.exponent with
      | some (true, e) => -(Text.decimal e : Int)
      | some (false, e) => (Text.decimal e : Int)
      | none => 0) + m.whole.length - k
  if n = 0 || power < 0 then false
  else if 308 < power then true
  else floatLimit ≤ roundToFloat n * roundToFloat (Nat.pow 10 power.toNat)

/-- The integer that a number writes, if it is one of at most 64 bits. Minus zero is
none. -/
def Numeral.integer? (m : Numeral) : Option Int :=
  let (n, k) := leadingDigits 0 0 m.whole
  if !m.fraction.isEmpty || m.exponent.isSome || k ≠ m.whole.length then none
  else if m.negative then if n = 0 ∨ 0x8000000000000000 < n then none else some (-(n : Int))
  else some n

/-- A number as it is written in full. -/
def Numeral.literal (m : Numeral) : Text :=
  (if m.negative then ['-'] else []) ++ m.whole ++
    (if m.fraction.isEmpty then [] else '.' :: m.fraction) ++
    (match m.exponent with
      | some (sign, e) => 'e' :: ((if sign then ['-'] else []) ++ e)
      | none => [])

/-- The value of a number. -/
def Numeral.number (m : Numeral) : Number :=
  match m.integer? with
  | some n => .integer n
  | none => .real (String.ofList m.literal)

/-- Reads a number and checks that a float can hold it, if it is kept. -/
def readNumber (care : Care) (s : Text) : Except Stop (Number × Text) :=
  match readNumeral care s with
  | .error e => .error e
  | .ok (m, rest) =>
    if care = .full && m.integer?.isNone && m.overflows then stop .numberRange rest
    else .ok (m.number, rest)

theorem missingDigit_ne_ok {α : Type} (care : Care) (rest : Text) (a : α) :
    missingDigit care rest ≠ .ok a := by
  unfold missingDigit stop
  split <;> simp

theorem length_lt_of_readWhole {care : Care} {s t rest : Text}
    (h : readWhole care s = .ok (t, rest)) : rest.length < s.length := by
  unfold readWhole at h
  split at h
  · split at h
    · exact absurd h (by simp [stopAt])
    · obtain ⟨-, rfl⟩ := Prod.mk.inj (Except.ok.inj h)
      exact Nat.lt_succ_self _
  · dsimp only at h
    split at h
    · exact absurd h (missingDigit_ne_ok care s _)
    · next hd =>
      simp only [Except.ok.injEq, Prod.mk.injEq] at h
      have hlen := congrArg List.length
        (List.takeWhile_append_dropWhile (p := Text.isDigitAscii) (l := s))
      have hpos : 0 < (s.takeWhile Text.isDigitAscii).length := by
        rw [List.length_pos_iff]
        intro he
        exact hd (by simp [he])
      rw [List.length_append] at hlen
      rw [← h.2]
      omega

theorem length_le_of_readFraction {care : Care} {s t rest : Text}
    (h : readFraction care s = .ok (t, rest)) : rest.length ≤ s.length := by
  unfold readFraction at h
  split at h
  · next more =>
    have hdrop := (List.dropWhile_suffix Text.isDigitAscii (l := more)).length_le
    dsimp only at h
    split at h
    · split at h <;> exact absurd h (by simp [stopAt])
    · obtain ⟨-, rfl⟩ := Prod.mk.inj (Except.ok.inj h)
      exact Nat.le_succ_of_le hdrop
  · obtain ⟨-, rfl⟩ := Prod.mk.inj (Except.ok.inj h)
    exact Nat.le_refl _

theorem length_le_of_readExponent {care : Care} {s rest : Text} {t : Option (Bool × Text)}
    (h : readExponent care s = .ok (t, rest)) : rest.length ≤ s.length := by
  unfold readExponent at h
  split at h
  · obtain ⟨-, rfl⟩ := Prod.mk.inj (Except.ok.inj h)
    exact Nat.le_refl _
  · next e more =>
    split at h
    · -- the digits follow at once or behind a sign
      dsimp only at h
      generalize hrest : (if more.head? = some '-' ∨ more.head? = some '+' then more.tail
        else more) = digits at h
      have hle : digits.length ≤ more.length := by
        rw [← hrest]
        split
        · simp
        · exact Nat.le_refl _
      have hdrop := (List.dropWhile_suffix Text.isDigitAscii (l := digits)).length_le
      split at h
      · exact absurd h (missingDigit_ne_ok care digits _)
      · obtain ⟨-, rfl⟩ := Prod.mk.inj (Except.ok.inj h)
        exact Nat.le_succ_of_le (Nat.le_trans hdrop hle)
    · obtain ⟨-, rfl⟩ := Prod.mk.inj (Except.ok.inj h)
      exact Nat.le_refl _

theorem length_lt_of_readNumeral {care : Care} {s rest : Text} {m : Numeral}
    (h : readNumeral care s = .ok (m, rest)) : rest.length < s.length := by
  unfold readNumeral at h
  dsimp only at h
  split at h
  · exact absurd h (by simp)
  · next whole afterWhole hwhole =>
    have hlt := length_lt_of_readWhole hwhole
    have hsign : (if s.head? = some '-' then s.tail else s).length ≤ s.length := by
      split
      · simp
      · exact Nat.le_refl _
    split at h
    · exact absurd h (by simp)
    · next fraction afterFraction hfraction =>
      have hle := length_le_of_readFraction hfraction
      split at h
      · exact absurd h (by simp)
      · next exponent afterExponent hexponent =>
        have hle' := length_le_of_readExponent hexponent
        obtain ⟨-, rfl⟩ := Prod.mk.inj (Except.ok.inj h)
        omega

theorem length_lt_of_readNumber {care : Care} {s rest : Text} {n : Number}
    (h : readNumber care s = .ok (n, rest)) : rest.length < s.length := by
  unfold readNumber at h
  split at h
  · exact absurd h (by simp)
  · next m more hm =>
    split at h
    · exact absurd h (by simp [stop])
    · obtain ⟨-, rfl⟩ := Prod.mk.inj (Except.ok.inj h)
      exact length_lt_of_readNumeral hm

/-! ### Any value without parts -/

theorem map_eq_ok {ε α β : Type} {x : Except ε α} {f : α → β} {b : β}
    (h : x.map f = .ok b) : ∃ a, x = .ok a ∧ f a = b := by
  cases x <;> simp_all [Except.map]

theorem length_le_of_readWord {word s rest : Text} (h : readWord word s = .ok rest) :
    rest.length ≤ s.length := by
  fun_induction readWord word s with
  | case1 s =>
    obtain rfl := Except.ok.inj h
    exact Nat.le_refl _
  | case2 => exact absurd h (by simp [stop])
  | case3 word d s ih => exact Nat.le_succ_of_le (ih h)
  | case4 => exact absurd h (by simp [stop])

/-- Reads a value without parts, from its first character on. -/
def readScalar (care : Care) : Text → Except Stop (Value × Text)
  | [] => stopAt .endBeforeValue []
  | c :: s =>
    if c = 'n' then (readWord ['u', 'l', 'l'] s).map fun rest => (.null, rest)
    else if c = 't' then (readWord ['r', 'u', 'e'] s).map fun rest => (.bool true, rest)
    else if c = 'f' then (readWord ['a', 'l', 's', 'e'] s).map fun rest => (.bool false, rest)
    else if c = '-' || Text.isDigitAscii c then
      (readNumber care (c :: s)).map fun r => (.number r.1, r.2)
    else if c = '\"' then
      (readString care [] s).map fun r => (.string (String.ofList r.1), r.2)
    else stopAt .expectedValue (c :: s)

theorem length_lt_of_readScalar {care : Care} {s rest : Text} {v : Value}
    (h : readScalar care s = .ok (v, rest)) : rest.length < s.length := by
  unfold readScalar at h
  split at h
  · exact absurd h (by simp [stopAt])
  · next c s =>
    -- the words come behind their first letters
    have hword : ∀ {word : Text} {v' : Value},
        (readWord word s).map (fun rest => (v', rest)) = .ok (v, rest) →
          rest.length < (c :: s).length := fun h => by
      obtain ⟨r, hr, he⟩ := map_eq_ok h
      obtain ⟨-, rfl⟩ := Prod.mk.inj he
      exact Nat.lt_succ_of_le (length_le_of_readWord hr)
    split at h
    · exact hword h
    · split at h
      · exact hword h
      · split at h
        · exact hword h
        · split at h
          · obtain ⟨r, hr, he⟩ := map_eq_ok h
            obtain ⟨-, rfl⟩ := Prod.mk.inj he
            exact length_lt_of_readNumber hr
          · split at h
            · obtain ⟨r, hr, he⟩ := map_eq_ok h
              obtain ⟨-, rfl⟩ := Prod.mk.inj he
              exact Nat.lt_succ_of_lt (length_lt_of_readString hr)
            · exact absurd h (by simp [stopAt])

end Maildrop.Json
