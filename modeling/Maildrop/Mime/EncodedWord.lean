import Maildrop.Mime.Charset

/-!
# Encoded words

A header holds ASCII; other text is written in it as *encoded words*,
`=?charset?encoding?text?=`, where the encoding is `Q` (hexadecimal escapes) or `B`
(base64). A reader that meets `=?` tries to read such a word and, if what follows is
none, goes on with the equals sign as an ordinary octet.

The charset may be followed by a star and a language, which is ignored. Inside the
text a line may be folded: a line feed is passed over if a blank follows it.

Each reader returns what is left after the word, which is shorter than its input
(`Maildrop.Mime.EncodedWord.length_lt_of_read?`); the readers of header values
recurse on that.
-/

namespace Maildrop.Mime.EncodedWord

open Ascii

/-- What an equals sign before the present octet has left to be read. -/
inductive Escape where
  /-- No escape is open. -/
  | closed
  /-- Both hexadecimal digits are missing. -/
  | marked
  /-- The second digit is missing. -/
  | half (high : UInt8)
  deriving DecidableEq, Repr

/-- The octets of the `Q` encoding up to `?=`, and the rest. While `folded` holds,
blanks after a folded line end are passed over. -/
def readQ (escape : Escape) (folded : Bool) (out : Bytes) : Bytes → Option (Bytes × Bytes)
  | [] => none
  | c :: s =>
    if folded && isBlank c then readQ escape true out s
    else if c = octet '=' then
      if escape = .closed then readQ .marked false out s else none
    else if c = octet '?' then
      if s.head? = some (octet '=') then some (out.reverse, s.tail)
      else readQ escape false (c :: out) s
    else if c = lf then
      if s.head?.any isBlank then readQ escape true out s else none
    else if c = octet '_' then readQ escape false (space :: out) s
    else if c = cr then readQ escape false out s
    else
      match escape, hexValue? c with
      | .closed, _ => readQ .closed false (c :: out) s
      | .marked, some v => readQ (.half v) false out s
      | .half h, some v => readQ .closed false ((h * 16 + v) :: out) s
      | _, none => none

/-- The octets of the `B` encoding up to `?=`, and the rest. After a line feed the
flag `folded` holds, and a blank has to follow. -/
def readB (q : Sextets) (folded : Bool) : Bytes → Option (Bytes × Bytes)
  | [] => none
  | c :: s =>
    if folded then if isBlank c then readB q false s else none
    else if c = octet '=' then readB q.flush false s
    else if c = octet '?' then
      if s.head? = some (octet '=') then some (q.bytes, s.tail) else none
    else if c = lf then readB q true s
    else if isBlank c || c = cr then readB q false s
    else
      match Sextets.value? c with
      | some v => readB (q.push v) false s
      | none => none

/-- The charset in what stands before the first question mark: it ends at a star,
unless the star is its first octet. -/
def charset : Bytes → Bytes
  | [] => []
  | c :: s => c :: s.takeWhile (· ≠ octet '*')

/-- The octets of the word and the rest, where the encoding's letter and its question
mark come first. -/
def readText : Bytes → Option (Bytes × Bytes)
  | e :: m :: s =>
    if m ≠ octet '?' then none
    else if toLower e = octet 'q' then readQ .closed false [] s
    else if toLower e = octet 'b' then readB {} false s
    else none
  | _ => none

/-- **Reads an encoded word** whose `=?` has been read: its text, and the rest. -/
def read? (s : Bytes) : Option (Text × Bytes) :=
  let before := s.takeWhile (· ≠ octet '?')
  if before.contains lf || (charset before).length < 2 then none
  else
    match readText (s.dropWhile (· ≠ octet '?')).tail with
    | some (w, rest) =>
      some (Charset.decodeNamed (some (Utf8.decodeLossy (charset before))) w, rest)
    | none => none

/-! ### What is left is shorter -/

/-- What is behind an octet has a tail that is shorter than both. -/
theorem length_tail_lt_cons (c : UInt8) (s : Bytes) : s.tail.length < (c :: s).length := by
  rw [List.length_tail, List.length_cons]
  omega

theorem length_lt_of_readQ {escape : Escape} {folded : Bool} {out s w rest : Bytes}
    (h : readQ escape folded out s = some (w, rest)) : rest.length < s.length := by
  fun_induction readQ escape folded out s with
  | case1 | case4 | case8 | case14 => exact absurd h (by simp)
  | case5 =>
    obtain ⟨-, rfl⟩ := Prod.mk.inj (Option.some.inj h)
    exact length_tail_lt_cons _ _
  | _ =>
    next ih => exact Nat.lt_succ_of_lt (ih h)

theorem length_lt_of_readB {q : Sextets} {folded : Bool} {s w rest : Bytes}
    (h : readB q folded s = some (w, rest)) : rest.length < s.length := by
  fun_induction readB q folded s with
  | case1 | case3 | case6 | case10 => exact absurd h (by simp)
  | case5 =>
    obtain ⟨-, rfl⟩ := Prod.mk.inj (Option.some.inj h)
    exact length_tail_lt_cons _ _
  | _ =>
    next ih => exact Nat.lt_succ_of_lt (ih h)

theorem length_lt_of_readText {s w rest : Bytes} (h : readText s = some (w, rest)) :
    rest.length < s.length := by
  unfold readText at h
  split at h
  · next e m s =>
    split at h
    · simp at h
    · split at h
      · have := length_lt_of_readQ h
        simp only [List.length_cons]
        omega
      · split at h
        · have := length_lt_of_readB h
          simp only [List.length_cons]
          omega
        · simp at h
  · simp at h

theorem length_lt_of_read? {s rest : Bytes} {w : Text} (h : read? s = some (w, rest)) :
    rest.length < s.length := by
  simp only [read?] at h
  split at h
  · simp at h
  · split at h
    · next w' rest' hr =>
      cases h
      have hlt := length_lt_of_readText hr
      have hle := (List.dropWhile_suffix (· ≠ octet '?') (l := s)).length_le
      simp only [List.length_tail] at hlt
      omega
    · simp at h

end Maildrop.Mime.EncodedWord
