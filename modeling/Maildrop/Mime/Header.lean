import Maildrop.Mime.ContentType

/-!
# Header blocks

A message, and every part of one, opens with a block of fields that an empty line
ends. A field is a name, a colon and a value; the value goes on over a line end that a
blank follows, and ends at the first that none follows. Blanks around the name are not
part of it, and a line without any name is passed over.

An input may end inside the block. The field it ends in then has no value, and the
block has no end: `Maildrop.Mime.Header.read` says so, since only a block that ended has
a body after it. What is left after the block is shorter than the input
(`Maildrop.Mime.Header.length_lt_of_read`).
-/

namespace Maildrop.Mime

open Ascii

/-- **A field of a header block.** -/
structure Field where
  /-- Its name, in small letters. -/
  name : Bytes
  /-- Its value with the folded line ends in it; none if the input ends before it. -/
  value : Option Bytes
  deriving DecidableEq

/-- **A header block**: its fields in order. -/
abbrev Header := List Field

namespace Header

/-- The value of a field up to the line end that closes it, and what follows. -/
def readValue (done : Bytes) : Bytes → Option (Bytes × Bytes)
  | [] => none
  | c :: s =>
    if c = lf ∧ ¬s.head?.any isBlank then some (done.reverse, s) else readValue (c :: done) s

/-- White space within a line. -/
def isInner (c : UInt8) : Bool := isWhite c && c ≠ lf

/-- A field's name as it is kept: without white space at its end, in small letters. -/
def foldName (name : Bytes) : Bytes := ((name.reverse.dropWhile isWhite).reverse).map toLower

theorem length_lt_of_readValue {done s v rest : Bytes} (h : readValue done s = some (v, rest)) :
    rest.length < s.length := by
  fun_induction readValue done s with
  | case1 => exact absurd h (by simp)
  | case2 done c s =>
    obtain ⟨-, rfl⟩ := Prod.mk.inj (Option.some.inj h)
    exact Nat.lt_succ_self s.length
  | case3 done c s _ ih => exact Nat.lt_succ_of_lt (ih h)

/-- **Reads a header block**: its fields, and what follows the empty line that ends it. -/
def read (s : Bytes) : Header × Option Bytes :=
  match hs : s.dropWhile isInner with
  | [] => ([], none)
  | c :: t =>
    if c = lf then ([], some t)
    else
      let line := (c :: t).dropWhile fun d => d = octet ':' || isInner d
      let name := foldName (line.takeWhile fun d => d ≠ octet ':' && d ≠ lf)
      match hd : line.dropWhile fun d => d ≠ octet ':' && d ≠ lf with
      | [] => (if line.isEmpty then [] else [⟨name, none⟩], none)
      | d :: u =>
        have hu : u.length < s.length := by
          have h₁ := (List.dropWhile_suffix isInner (l := s)).length_le
          have h₂ : line.length ≤ (c :: t).length := (List.dropWhile_suffix _).length_le
          have h₃ :=
            (List.dropWhile_suffix (fun d => d ≠ octet ':' && d ≠ lf) (l := line)).length_le
          rw [hs] at h₁
          rw [hd] at h₃
          simp only [List.length_cons] at h₁ h₂ h₃
          omega
        if d = lf then read u
        else
          match hv : readValue [] u with
          | none => ([⟨name, none⟩], none)
          | some (value, rest) =>
            have := length_lt_of_readValue hv
            let r := read rest
            (⟨name, some value⟩ :: r.1, r.2)
termination_by s.length

theorem length_lt_of_read {s rest : Bytes} (h : (read s).2 = some rest) :
    rest.length < s.length := by
  fun_induction read s with
  | case1 => simp at h
  | case2 s t hs =>
    have := (List.dropWhile_suffix isInner (l := s)).length_le
    rw [hs] at this
    simp only [List.length_cons, Option.some.injEq] at this h
    subst h
    omega
  | case3 => simp at h
  | case4 s c t hs _ line u hd hu ih => exact Nat.lt_trans (ih h) hu
  | case5 => simp at h
  | case6 s c t hs _ line name d u hd hu _ value rest' hv hlt r ih =>
    exact Nat.lt_trans (ih h) (Nat.lt_trans hlt hu)

/-- The value of the last field of a name, if there is such a field and it has one. -/
def value? (b : Header) (name : String) : Option Bytes :=
  (b.reverse.find? fun f => f.name = Utf8.encode name.toList).bind Field.value

/-- The text of the last field of a name. -/
def text? (b : Header) (name : String) : Option Text := (b.value? name).bind FieldText.read

/-- **The subject.** -/
def subject? (b : Header) : Option Text := b.text? "subject"

/-- **The content type.** -/
def contentType? (b : Header) : Option ContentType :=
  (b.value? "content-type").bind ContentType.read?

end Header

end Maildrop.Mime
