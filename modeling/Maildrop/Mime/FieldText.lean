import Maildrop.Mime.EncodedWord
import Maildrop.Mime.Span

/-!
# The text of a header field

The value of a field such as the subject is words of plain text and encoded words. A
plain stretch reaches from its first octet to the last that is no blank, and ends at a
folded line end. The pieces are joined by single spaces, except that nothing stands
between two encoded words, so that a long text can be cut into several.
-/

namespace Maildrop.Mime

/-- Tries to read an encoded word that starts with the octet `c`; what follows it is
`s`. -/
def encodedWord? (c : UInt8) (s : Bytes) : Option (Text × Bytes) :=
  if c = Ascii.octet '=' ∧ s.head? = some (Ascii.octet '?') then EncodedWord.read? s.tail
  else none

theorem length_lt_of_encodedWord? {c : UInt8} {s rest : Bytes} {w : Text}
    (h : encodedWord? c s = some (w, rest)) : rest.length < s.length := by
  unfold encodedWord? at h
  split at h
  · have := EncodedWord.length_lt_of_read? h
    simp only [List.length_tail] at this
    omega
  · simp at h

namespace FieldText

/-- **A piece of a field's text.** -/
inductive Piece where
  /-- A stretch of plain text. -/
  | plain (t : Text)
  /-- The text of an encoded word. -/
  | encoded (t : Text)

/-- Adds the stretch being read to the pieces before it, last piece first. -/
def close (stretch : Option Span) (done : List Piece) : List Piece :=
  match stretch with
  | some t => .plain t.text :: done
  | none => done

/-- The pieces of a value, last piece first. -/
def pieces (stretch : Option Span) (done : List Piece) : Bytes → List Piece
  | [] => close stretch done
  | c :: s =>
    if c = Ascii.lf then pieces none (close stretch done) s
    else if Ascii.isBlank c || c = Ascii.cr then pieces (stretch.map (·.skip c)) done s
    else
      match h : encodedWord? c s with
      | some (w, rest) =>
        have := length_lt_of_encodedWord? h
        pieces none (.encoded w :: close stretch done) rest
      | none => pieces (some (Span.takeInto stretch c)) done s
termination_by s => s.length

/-- The pieces joined, where the list holds the last piece first. -/
def join : List Piece → Text
  | [] => []
  | [.plain t] | [.encoded t] => t
  | .encoded t :: .encoded u :: ps => join (.encoded u :: ps) ++ t
  | .plain t :: p :: ps => join (p :: ps) ++ ' ' :: t
  | .encoded t :: .plain u :: ps => join (.plain u :: ps) ++ ' ' :: t

/-- **The text of a value**, or none if it holds nothing but blanks. -/
def read (value : Bytes) : Option Text :=
  match pieces none [] value with
  | [] => none
  | ps => some (join ps)

end FieldText

end Maildrop.Mime
