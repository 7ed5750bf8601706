import Maildrop.Text.Utf8

/-!
# Short forms of texts

Two ways to make a text short. A *truncated* text is cut after a number of characters,
wherever that falls, and may end in three dots that count among them. A *shortened*
text is cut at the end of a word. Both count characters, never octets.

To truncate a text one need not count it to its end: it is enough to walk to the character
behind the cut. What such a walk finds is the offset of that character in the octets of the
text (`Maildrop.Text.offset?`), and there the octets are cut (`Maildrop.Text.cutOffset?`).

A limit that leaves no room is refused before anything else. The wording of that
(`Maildrop.Text.LimitError.message`) is for callers; no command gives such a limit.
-/

namespace Maildrop.Text

/-- What stands for the text cut off. -/
def ellipsis : Text := ['.', '.', '.']

/-- Whether a text can be truncated to so many characters: there has to be room for one
besides the dots. -/
def isLimit (limit : Nat) (dots : Bool) : Bool := 1 ≤ limit && (!dots || 4 ≤ limit)

/-- **The text cut to a number of characters.** A text that fits is kept. -/
def truncate (t : Text) (limit : Nat) (dots : Bool) : Text :=
  if t.length ≤ limit then t
  else if dots then t.take (limit - ellipsis.length) ++ ellipsis
  else t.take limit

/-- **The offset of a character** in the octets of a text, if the text goes so far: the
characters before it are passed over one by one. -/
def offset? : Text → Nat → Option Nat
  | [], _ => none
  | _ :: _, 0 => some 0
  | c :: s, k + 1 => (offset? s k).map (Utf8.charSize c + ·)

/-- **The offset at which a text is cut**, if it is. Where dots are added they take the place of
the last characters, which are found by a second walk. -/
def cutOffset? (t : Text) (limit : Nat) (dots : Bool) : Option Nat :=
  (offset? t limit).map fun cut =>
    if dots then (offset? t (limit - ellipsis.length)).getD cut else cut

/-- **A limit that leaves no room** for any text. -/
structure LimitError where
  limit : Nat
  deriving DecidableEq, Repr

/-- The wording of the error. -/
def LimitError.message (e : LimitError) : String :=
  "max_chars must be at least 1 without an ellipsis or 4 with one, got " ++ toString e.limit

/-- The text cut to a number of characters, if that is a limit at all; a missing text
is empty. -/
def truncate? (t : Option Text) (limit : Nat) (dots : Bool) : Except LimitError Text :=
  if isLimit limit dots then .ok ((t.getD []).truncate limit dots) else .error ⟨limit⟩

/-- Texts longer than this are shortened. -/
def shortLimit : Nat := 60

/-- A shortened text keeps at least so many characters. -/
def shortLeast : Nat := 12

/-- **The text cut at the end of a word.** A text that fits is kept. Of a longer one the
first sixty characters are taken, and of those a last word and the blanks before it
are dropped, unless hardly anything would be left. -/
def shorten (t : Text) : Text :=
  if t.length ≤ shortLimit then t
  else
    let hard := t.take shortLimit
    let soft := trimEnd (dropEndWhile (fun c => !isBlank c) hard)
    (if soft.length < shortLeast then hard else soft) ++ ellipsis

end Maildrop.Text
