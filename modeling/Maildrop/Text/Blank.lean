/-!
# Blank characters and trimming

The characters of the Unicode property `White_Space`, and what it means to trim a
text of them at either end. Texts are handled as lists of characters, so that a
cut is a split of a list and lengths are counted in characters.
-/

namespace Maildrop

/-- **A text** as a list of characters, which are Unicode scalar values. -/
abbrev Text := List Char

namespace Text

/-- **A blank character**: one with the Unicode property `White_Space`. -/
def isBlank (c : Char) : Bool :=
  let n := c.toNat
  (0x09 ≤ n && n ≤ 0x0D) || n == 0x20 || n == 0x85 || n == 0xA0 || n == 0x1680 ||
  (0x2000 ≤ n && n ≤ 0x200A) || n == 0x2028 || n == 0x2029 || n == 0x202F ||
  n == 0x205F || n == 0x3000

/-- The text without its longest final run of characters in `p`. -/
def dropEndWhile (p : Char → Bool) (t : Text) : Text :=
  (t.reverse.dropWhile p).reverse

/-- The text without the blanks at its front. -/
def trimStart (t : Text) : Text := t.dropWhile isBlank

/-- The text without the blanks at its end. -/
def trimEnd (t : Text) : Text := dropEndWhile isBlank t

/-- The text without the blanks at either end. -/
def trim (t : Text) : Text := trimEnd (trimStart t)

/-- A text is what is left of it after dropping a final run, and that run. -/
theorem dropEndWhile_append_takeWhile (p : Char → Bool) (t : Text) :
    dropEndWhile p t ++ (t.reverse.takeWhile p).reverse = t := by
  rw [dropEndWhile, ← List.reverse_append, List.takeWhile_append_dropWhile, List.reverse_reverse]

/-- What is dropped has the property that it is dropped for. -/
theorem exists_dropEndWhile_append (p : Char → Bool) (t : Text) :
    ∃ run, dropEndWhile p t ++ run = t ∧ ∀ c ∈ run, p c := by
  refine ⟨_, dropEndWhile_append_takeWhile p t, fun c hc => ?_⟩
  exact List.all_eq_true.mp List.all_takeWhile c (List.mem_reverse.mp hc)

end Text

end Maildrop
